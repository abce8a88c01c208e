import Faceting.Proofs.Files.Run
import Faceting.Proofs.Basic
import Faceting.Settings.Arguments

/-!
# Precedence of the command line over the configuration file

Settings come from the command line and, behind it, from a configuration file. Each choice is looked for in
the one and then in the other (`Prefers`), except for the directories, which stand together: if the command
line gives any of them then the file is not asked for them. So a layout never has directories of both.

`settings_precedence` says this of whole runs. What a run gives is first reduced to the choices in the file
(`Arguments.Configures`), how they are combined (`Choices.resolve`) and what the tree has to say about the
settings that result (`Settings.fault?`).
-/

namespace Faceting

/-! ### Sources -/

/-- What two sources say together: what the first says, or what the second says if the first says nothing. -/
def Prefers {α : Type} (first second chosen : Option α) : Prop :=
  (∀ x, first = some x → chosen = some x) ∧ (first = none → chosen = second)

theorem prefers_iff {α : Type} {first second chosen : Option α} :
    Prefers first second chosen ↔ chosen = first.or second := by
  cases first <;> simp [Prefers]

namespace Choices

/-- The directories that a source gives: for everything, for headers, and for bodies. -/
def directories (c : Choices) : Option Path × Option Path × Option Path :=
  (c.output, c.headers, c.bodies)

/-- What else a source chooses. -/
def withoutDirectories (c : Choices) : Choices :=
  { c with output := none, headers := none, bodies := none }

/-- The directories of a source are those of a layout: one for everything alone, or one for headers and one
for bodies. -/
def Lays (c : Choices) : Layout → Prop
  | .single dir => c.directories = (some dir, none, none)
  | .split headers bodies => c.directories = (none, some headers, some bodies)

theorem layout_eq_ok_iff {c : Choices} {l : Layout} : c.layout = .ok l ↔ c.Lays l := by
  unfold layout
  cases l <;> cases houtput : c.output <;> cases hheaders : c.headers <;> cases hbodies : c.bodies <;>
    simp [Lays, directories, houtput, hheaders, hbodies]

/-- The layout of a source depends on nothing but its directories. -/
theorem layout_congr {c c' : Choices} (h : c.directories = c'.directories) : c.layout = c'.layout := by
  have houtput : c.output = c'.output := congrArg Prod.fst h
  have hheaders : c.headers = c'.headers := congrArg (·.2.1) h
  have hbodies : c.bodies = c'.bodies := congrArg (·.2.2) h
  unfold layout
  rw [houtput, hheaders, hbodies]

/-- The source that the directories are taken from. -/
def layoutSource (first second : Choices) : Choices :=
  if first.choosesLayout then first else second

/-- The settings that two sources choose, of which the first goes before the second. -/
structure Precedence (first second : Choices) (s : Settings) : Prop where
  input : Prefers first.input second.input (some s.input)
  profile : ∃ chosen, Prefers first.profile second.profile chosen ∧ s.profile = chosen.getD .full
  templateDirectory : Prefers first.templateDirectory second.templateDirectory s.templateDirectory
  manifest : Prefers first.manifest second.manifest s.manifest
  dryRun : s.dryRun = true ↔ first.dryRun = some true ∨ second.dryRun = some true
  layout : (layoutSource first second).Lays s.layout

theorem dryRun_iff (first second : Option Bool) :
    (first.getD false || second.getD false) = true ↔ first = some true ∨ second = some true := by
  cases first <;> cases second <;> simp

theorem resolve_eq_ok_iff {first second : Choices} {s : Settings} :
    first.resolve second = .ok s ↔ Precedence first second s := by
  constructor
  · intro h
    unfold resolve at h
    split at h
    · exact nomatch h
    · rename_i input hinput
      cases hlayout : (layoutSource first second).layout with
      | error e =>
        rw [← layoutSource, hlayout] at h
        exact nomatch h
      | ok layout =>
        rw [← layoutSource, hlayout] at h
        cases h
        exact
          { input := prefers_iff.2 hinput.symm
            profile := ⟨_, prefers_iff.2 rfl, rfl⟩
            templateDirectory := prefers_iff.2 rfl
            manifest := prefers_iff.2 rfl
            dryRun := dryRun_iff _ _
            layout := layout_eq_ok_iff.1 hlayout }
  · intro h
    obtain ⟨chosen, hchosen, hprofile⟩ := h.profile
    have hdryRun := Bool.eq_iff_iff.2 (h.dryRun.trans (dryRun_iff _ _).symm)
    unfold resolve
    rw [← prefers_iff.1 h.input, ← layoutSource, layout_eq_ok_iff.2 h.layout, ← hdryRun,
      ← prefers_iff.1 h.templateDirectory, ← prefers_iff.1 h.manifest, ← prefers_iff.1 hchosen, ← hprofile]
    rfl

/-- Sources make no settings if neither has an input, or if the directories make no layout. -/
theorem resolve_eq_error_iff {first second : Choices} {e : SettingsError} :
    first.resolve second = .error e ↔
      (first.input.or second.input = none ∧ e = .noInput) ∨
      ((first.input.or second.input).isSome ∧ (layoutSource first second).layout = .error e) := by
  unfold resolve
  rw [← layoutSource]
  cases first.input.or second.input with
  | none => simp [eq_comm]
  | some input => cases (layoutSource first second).layout <;> simp [Except.map]

/-- With directories in the first source, those of the second have no influence. -/
theorem resolve_congr {first second second' : Choices} (hfirst : first.choosesLayout = true)
    (h : second.withoutDirectories = second'.withoutDirectories) :
    first.resolve second = first.resolve second' := by
  simp only [withoutDirectories, Choices.mk.injEq, true_and] at h
  obtain ⟨hinput, hprofile, htemplates, hmanifest, hdryRun⟩ := h
  unfold resolve
  rw [if_pos hfirst, if_pos hfirst, hinput, hprofile, htemplates, hmanifest, hdryRun]

end Choices

/-! ### Layouts -/

/-- The errors that are about the directories. -/
def SettingsError.isLayoutFault : SettingsError → Bool
  | .noOutput => true
  | .outputCombined => true
  | .headersAlone => true
  | .bodiesAlone => true
  | _ => false

/-- What a result says about the layout: the layout, or what is wrong with the directories; nothing if the
settings are refused for another reason. -/
def layoutOutcome? : Except SettingsError Settings → Option (Except SettingsError Layout)
  | .ok s => some (.ok s.layout)
  | .error e => if e.isLayoutFault then some (.error e) else none

theorem Choices.isLayoutFault_of_layout {c : Choices} {e : SettingsError} (h : c.layout = .error e) :
    e.isLayoutFault = true := by
  unfold layout at h
  split at h <;> cases h <;> rfl

/-! ### Files -/

/-- Whether there is a directory at a path. -/
def FileTree.hasDirectory (t : FileTree) (p : Path) : Bool :=
  (t.stat p).toOption == some .directory

theorem FileTree.hasDirectory_iff {t : FileTree} {p : Path} :
    t.hasDirectory p = true ↔ t.stat p = .ok .directory := by
  unfold hasDirectory
  cases t.stat p <;> simp [Except.toOption]

namespace Settings

/-- What the tree has against the directory of templates. -/
def templateFault? (s : Settings) (t : FileTree) : Option SettingsError :=
  s.templateDirectory.bind fun dir => if t.hasDirectory dir then none else some (.noTemplateDirectory dir)

/-- What the tree has against the place of the manifest. -/
def manifestFault? (s : Settings) (t : FileTree) : Option SettingsError :=
  s.manifest.bind fun path => if t.hasDirectory path then some (.manifestIsDirectory path) else none

/-- What the tree has against settings. -/
def fault? (s : Settings) (t : FileTree) : Option SettingsError :=
  (s.templateFault? t).or (s.manifestFault? t)

/-- The templates are in a directory, and the manifest does not stand in the place of one. -/
structure Fits (s : Settings) (t : FileTree) : Prop where
  templates : ∀ dir, s.templateDirectory = some dir → t.stat dir = .ok .directory
  manifest : ∀ path, s.manifest = some path → t.stat path ≠ .ok .directory

theorem fault?_eq_none_iff {s : Settings} {t : FileTree} : s.fault? t = none ↔ s.Fits t := by
  have htemplates : s.templateFault? t = none
      ↔ ∀ dir, s.templateDirectory = some dir → t.stat dir = .ok .directory := by
    simp [templateFault?, Option.bind_eq_none_iff, FileTree.hasDirectory_iff]
  have hmanifest : s.manifestFault? t = none
      ↔ ∀ path, s.manifest = some path → t.stat path ≠ .ok .directory := by
    simp [manifestFault?, Option.bind_eq_none_iff, FileTree.hasDirectory_iff]
  rw [fault?, Option.or_eq_none_iff, htemplates, hmanifest]
  exact ⟨fun h => ⟨h.1, h.2⟩, fun h => ⟨h.templates, h.manifest⟩⟩

/-- What a tree has against settings depends only on what stands at the paths that they name. -/
theorem fault?_congr {s : Settings} {t t' : FileTree}
    (h : ∀ p, s.templateDirectory = some p ∨ s.manifest = some p → t.stat p = t'.stat p) :
    s.fault? t = s.fault? t' := by
  have hdirectory (p : Path) (hp : s.templateDirectory = some p ∨ s.manifest = some p) :
      t.hasDirectory p = t'.hasDirectory p := by
    rw [FileTree.hasDirectory, FileTree.hasDirectory, h p hp]
  have htemplates : s.templateFault? t = s.templateFault? t' := by
    refine Option.bind_congr fun dir hdir => ?_
    rw [hdirectory dir (.inl hdir)]
  have hmanifest : s.manifestFault? t = s.manifestFault? t' := by
    refine Option.bind_congr fun path hpath => ?_
    rw [hdirectory path (.inr hpath)]
  rw [fault?, fault?, htemplates, hmanifest]

/-- What the tree has against settings is not about their layout. -/
theorem isLayoutFault_of_fault? {s : Settings} {t : FileTree} {e : SettingsError} (h : s.fault? t = some e) :
    e.isLayoutFault = false := by
  rcases Option.or_eq_some_iff.1 h with h | ⟨_, h⟩ <;> obtain ⟨p, _, h⟩ := Option.bind_eq_some_iff.1 h <;>
    split at h <;> cases h <;> rfl

/-- The settings, unless the tree has something against them. -/
def verdict (t : FileTree) (s : Settings) : Except SettingsError Settings :=
  match s.fault? t with
  | some e => .error e
  | none => .ok s

theorem verdict_eq_ok_iff {s s' : Settings} {t : FileTree} : s.verdict t = .ok s' ↔ s = s' ∧ s.Fits t := by
  rw [← fault?_eq_none_iff]
  unfold verdict
  cases s.fault? t <;> simp

theorem runOn_isDirectory {ε : Type} (t : FileTree) (p : Path) :
    runOn t (liftM (Files.isDirectory p : FileM Bool) : ExceptT ε FileM Bool) = (.ok (t.hasDirectory p), t) :=
  rfl

/-- The check looks at the templates first, and then at the manifest. -/
theorem runOn_validate (s : Settings) (t : FileTree) :
    runOn t s.validate = (match s.fault? t with
      | some e => .error e
      | none => .ok (), t) := by
  unfold validate fault? templateFault? manifestFault?
  cases s.templateDirectory with
  | none =>
    cases s.manifest with
    | none => rfl
    | some path =>
      simp only [runOn_bind, runOn_isDirectory, Option.bind_some]
      cases t.hasDirectory path <;> rfl
  | some dir =>
    simp only [runOn_bind, runOn_isDirectory, Option.bind_some]
    cases t.hasDirectory dir with
    | false => rfl
    | true =>
      cases s.manifest with
      | none => rfl
      | some path =>
        simp only [if_true, runOn_bind, runOn_isDirectory, Option.bind_some]
        cases t.hasDirectory path <;> rfl

end Settings

/-- The choices that the text of a configuration file makes. -/
def Choices.StoredAt (file : Choices) (t : FileTree) (p : Path) : Prop :=
  ∃ content text format, (t.stat p).toOption.isSome ∧ t.read p = .ok content ∧
    String.fromUTF8? content = some text ∧
    ConfigFormat.ofExtension? (Text.lowerAscii (p.extension?.getD "")) = some format ∧
    format.read? text = some file

/-- Loading leaves the tree as it is, and gives what the text of the file says. -/
theorem Choices.load_spec {t t' : FileTree} {p : Path} {r : Except SettingsError Choices}
    (h : runOn t (Choices.load p) = (r, t')) : t' = t ∧ ∀ file, r = .ok file ↔ file.StoredAt t p := by
  unfold Choices.load at h
  rw [runOn_bind, runOn_lift, FileM.isPresent_apply] at h
  cases hpresent : (t.stat p).toOption.isSome with
  | false =>
    rw [hpresent] at h
    cases h
    simp [StoredAt, hpresent]
  | true =>
    simp only [hpresent, if_true, runOn_bind, runOn_lift, FileM.readText_apply_snd,
      FileM.readText_apply_fst] at h
    cases hread : t.read p with
    | error e =>
      rw [hread] at h
      cases h
      simp [StoredAt, hread]
    | ok content =>
      simp only [hread] at h
      cases htext : String.fromUTF8? content with
      | none =>
        rw [htext] at h
        cases h
        simp [StoredAt, hread, htext]
      | some text =>
        simp only [htext] at h
        cases hformat : ConfigFormat.ofExtension? (Text.lowerAscii (p.extension?.getD "")) with
        | none =>
          rw [hformat] at h
          cases h
          simp [StoredAt, hformat]
        | some format =>
          simp only [hformat] at h
          cases hchoices : format.read? text <;> rw [hchoices] at h <;> cases h <;>
            simp [StoredAt, hpresent, hread, htext, hformat, hchoices]

namespace Arguments

/-- What the configuration file of the arguments chooses; nothing if there is none. -/
def Configures (a : Arguments) (t : FileTree) (file : Choices) : Prop :=
  match a.config with
  | some path => file.StoredAt t path
  | none => file = {}

/-- Looks for the configuration file. -/
def fileChoices (a : Arguments) : ExceptT SettingsError FileM Choices :=
  match a.config with
  | some path => Choices.load path
  | none => pure {}

theorem fileChoices_spec {a : Arguments} {t t' : FileTree} {r : Except SettingsError Choices}
    (h : runOn t a.fileChoices = (r, t')) : t' = t ∧ ∀ file, r = .ok file ↔ a.Configures t file := by
  unfold fileChoices at h
  unfold Configures
  cases hconfig : a.config with
  | none =>
    rw [hconfig] at h
    cases h
    simp [eq_comm]
  | some path =>
    rw [hconfig] at h
    exact Choices.load_spec h

theorem settings_eq (a : Arguments) :
    (a.settings : ExceptT SettingsError FileM Settings) = a.fileChoices >>= fun file =>
      match a.choices.resolve file with
      | .error e => throw e
      | .ok s => do
        s.validate
        return s := by
  unfold settings fileChoices
  cases a.config <;> rfl

section
variable {a : Arguments} {t : FileTree} {file : Choices}

/-- With the choices of its file known, a run depends on the tree only for what it has against the
settings. -/
theorem runOn_settings (h : a.Configures t file) :
    (runOn t a.settings).1 = (a.choices.resolve file).bind (Settings.verdict t) := by
  rcases hrun : runOn t a.fileChoices with ⟨r, t'⟩
  obtain ⟨rfl, hr⟩ := fileChoices_spec hrun
  obtain rfl := (hr file).2 h
  rw [settings_eq, runOn_bind_of_ok hrun]
  cases a.choices.resolve file with
  | error e => rfl
  | ok s =>
    simp only [runOn_bind, Settings.runOn_validate, Except.bind, Settings.verdict]
    cases s.fault? t' <;> rfl

theorem exists_configures {s : Settings} (h : (runOn t a.settings).1 = .ok s) :
    ∃ file, a.Configures t file := by
  rcases hrun : runOn t a.fileChoices with ⟨r, t'⟩
  obtain ⟨rfl, hr⟩ := fileChoices_spec hrun
  cases r with
  | error e =>
    rw [settings_eq, runOn_bind, hrun] at h
    exact nomatch h
  | ok file => exact ⟨file, (hr file).1 rfl⟩

/-- A run succeeds with the settings that the sources choose, if the tree has nothing against them. -/
theorem settings_eq_ok_iff {s : Settings} :
    (runOn t a.settings).1 = .ok s ↔
      ∃ file, a.Configures t file ∧ Choices.Precedence a.choices file s ∧ s.Fits t := by
  constructor
  · intro h
    obtain ⟨file, hfile⟩ := exists_configures h
    rw [runOn_settings hfile] at h
    obtain ⟨s', hresolve, hverdict⟩ := bind_eq_ok h
    obtain ⟨rfl, hfits⟩ := Settings.verdict_eq_ok_iff.1 hverdict
    exact ⟨file, hfile, Choices.resolve_eq_ok_iff.1 hresolve, hfits⟩
  · rintro ⟨file, hfile, hprecedence, hfits⟩
    rw [runOn_settings hfile, Choices.resolve_eq_ok_iff.2 hprecedence]
    exact Settings.verdict_eq_ok_iff.2 ⟨rfl, hfits⟩

/-- What a run says about the layout is what the source of the directories says. -/
theorem layout_of_outcome (hfile : a.Configures t file) {o : Except SettingsError Layout}
    (h : layoutOutcome? (runOn t a.settings).1 = some o) :
    (Choices.layoutSource a.choices file).layout = o := by
  rw [runOn_settings hfile] at h
  cases hresolve : a.choices.resolve file with
  | error e =>
    rw [hresolve] at h
    rcases Choices.resolve_eq_error_iff.1 hresolve with ⟨_, rfl⟩ | ⟨_, hlayout⟩
    · exact nomatch h
    · rw [Except.bind, layoutOutcome?, if_pos (Choices.isLayoutFault_of_layout hlayout)] at h
      exact hlayout.trans (Option.some.inj h)
  | ok s =>
    have hlayout := Choices.layout_eq_ok_iff.2 (Choices.resolve_eq_ok_iff.1 hresolve).layout
    rw [hresolve, Except.bind, Settings.verdict] at h
    cases hfault : s.fault? t with
    | some e =>
      rw [hfault] at h
      simp [layoutOutcome?, Settings.isLayoutFault_of_fault? hfault] at h
    | none =>
      rw [hfault] at h
      exact hlayout.trans (Option.some.inj h)

/-- Two runs say the same about the layout if their sources of the directories do. -/
theorem outcomes_eq {a' : Arguments} {t' : FileTree} {file' : Choices} {o o' : Except SettingsError Layout}
    (hfile : a.Configures t file) (hfile' : a'.Configures t' file')
    (hsource : (Choices.layoutSource a.choices file).layout = (Choices.layoutSource a'.choices file').layout)
    (h : layoutOutcome? (runOn t a.settings).1 = some o)
    (h' : layoutOutcome? (runOn t' a'.settings).1 = some o') : o = o' :=
  (layout_of_outcome hfile h).symm.trans (hsource.trans (layout_of_outcome hfile' h'))

/-- A run ends with a fault of the layout if there is an input but the directories make no layout. -/
theorem exists_layoutFault_iff (hfile : a.Configures t file) :
    (∃ e, layoutOutcome? (runOn t a.settings).1 = some (.error e)) ↔
      (a.choices.input.or file.input).isSome ∧ ∀ l, ¬ (Choices.layoutSource a.choices file).Lays l := by
  constructor
  · rintro ⟨e, h⟩
    have hlayout := layout_of_outcome hfile h
    refine ⟨?_, fun l hlays => ?_⟩
    · cases hinput : a.choices.input.or file.input with
      | none =>
        have hresolve := Choices.resolve_eq_error_iff.2 (.inl ⟨hinput, rfl⟩)
        rw [runOn_settings hfile, hresolve] at h
        exact nomatch h
      | some input => rfl
    · rw [Choices.layout_eq_ok_iff.2 hlays] at hlayout
      exact nomatch hlayout
  · rintro ⟨hinput, hlays⟩
    cases hlayout : (Choices.layoutSource a.choices file).layout with
    | ok l => exact absurd (Choices.layout_eq_ok_iff.1 hlayout) (hlays l)
    | error e =>
      refine ⟨e, ?_⟩
      rw [runOn_settings hfile, Choices.resolve_eq_error_iff.2 (.inr ⟨hinput, hlayout⟩), Except.bind,
        layoutOutcome?, if_pos (Choices.isLayoutFault_of_layout hlayout)]

end

/-- **The command line goes before the configuration file, and directories are taken from one of the two.**

A run succeeds with exactly those settings in which input, profile, templates and manifest are each what the
command line says, or else the file, a dry run is one that either of them asks for, and the layout is made of
the directories of one source. It fails because of the directories exactly if there is an input and that
source gives no layout.

If the command line gives a directory then those of the file have no influence: not on what is said about the
layout, whatever else differs in file and tree, and not on anything if nothing else differs. Otherwise what is
said about the layout depends on nothing but the directories of the file. -/
theorem settings_precedence (a : Arguments) :
    (∀ t s, (runOn t a.settings).1 = .ok s ↔
      ∃ file, a.Configures t file ∧ Choices.Precedence a.choices file s ∧ s.Fits t) ∧
    (∀ t file, a.Configures t file →
      ((∃ e, layoutOutcome? (runOn t a.settings).1 = some (.error e)) ↔
        (a.choices.input.or file.input).isSome ∧
          ∀ l, ¬ (Choices.layoutSource a.choices file).Lays l)) ∧
    (∀ t t' file file', a.Configures t file → a.Configures t' file' → a.choices.choosesLayout = true →
      (∀ o o', layoutOutcome? (runOn t a.settings).1 = some o →
        layoutOutcome? (runOn t' a.settings).1 = some o' → o = o') ∧
      (file.withoutDirectories = file'.withoutDirectories →
        (∀ p, a.choices.templateDirectory.or file.templateDirectory = some p ∨
          a.choices.manifest.or file.manifest = some p → t.stat p = t'.stat p) →
        (runOn t a.settings).1 = (runOn t' a.settings).1)) ∧
    ∀ (a' : Arguments) t t' file file', a.Configures t file → a'.Configures t' file' →
      a.choices.choosesLayout = false → a'.choices.choosesLayout = false →
      file.directories = file'.directories →
      ∀ o o', layoutOutcome? (runOn t a.settings).1 = some o →
        layoutOutcome? (runOn t' a'.settings).1 = some o' → o = o' := by
  refine ⟨fun t s => settings_eq_ok_iff, fun t file hfile => exists_layoutFault_iff hfile, ?_, ?_⟩
  · intro t t' file file' hfile hfile' hchooses
    have hsource (file : Choices) : Choices.layoutSource a.choices file = a.choices := if_pos hchooses
    refine ⟨fun o o' h h' => outcomes_eq hfile hfile' ?_ h h', fun hsame hstat => ?_⟩
    · rw [hsource, hsource]
    · rw [runOn_settings hfile, runOn_settings hfile', ← Choices.resolve_congr hchooses hsame]
      cases hresolve : a.choices.resolve file with
      | error e => rfl
      | ok s =>
        have hprecedence := Choices.resolve_eq_ok_iff.1 hresolve
        rw [← prefers_iff.1 hprecedence.templateDirectory, ← prefers_iff.1 hprecedence.manifest] at hstat
        simp only [Except.bind, Settings.verdict, Settings.fault?_congr hstat]
  · intro a' t t' file file' hfile hfile' hnone hnone' hdirectories o o' h h'
    have hsource : Choices.layoutSource a.choices file = file := if_neg (by simp [hnone])
    have hsource' : Choices.layoutSource a'.choices file' = file' := if_neg (by simp [hnone'])
    refine outcomes_eq hfile hfile' ?_ h h'
    rw [hsource, hsource', Choices.layout_congr hdirectories]

/-- A tree with nothing but a configuration file. -/
def configTree (text : String) : FileTree :=
  { root := .directory [("run.json", .file text.toUTF8 false)] }

/-- A configuration that puts everything into one directory. -/
def oneDirectory : String :=
  "\x7b\"input\": \"a.yaml\", \"output\": \"gen\", \"manifest\": \"run.json\"\x7d"

/-- The same configuration with a directory for bodies alone in its place. -/
def bodiesOnly : String :=
  "\x7b\"input\": \"a.yaml\", \"output_cpp\": \"lib\", \"manifest\": \"run.json\"\x7d"

/-- Arguments that name the configuration file and give directories. -/
def withDirectories (headers bodies : Option Path) : Arguments :=
  { config := some ⟨"run.json"⟩, choices := { headers, bodies, dryRun := some true } }

theorem configures_oneDirectory (headers bodies : Option Path) :
    (withDirectories headers bodies).Configures (configTree oneDirectory)
      { input := some ⟨"a.yaml"⟩, output := some ⟨"gen"⟩, manifest := some ⟨"run.json"⟩ } :=
  ⟨_, oneDirectory, .json, rfl, rfl, FileM.fromUTF8?_toUTF8 _, by decide +kernel, by decide +kernel⟩

theorem configures_bodiesOnly (headers bodies : Option Path) :
    (withDirectories headers bodies).Configures (configTree bodiesOnly)
      { input := some ⟨"a.yaml"⟩, bodies := some ⟨"lib"⟩, manifest := some ⟨"run.json"⟩ } :=
  ⟨_, bodiesOnly, .json, rfl, rfl, FileM.fromUTF8?_toUTF8 _, by decide +kernel, by decide +kernel⟩

theorem stat_configTree (text : String) : (configTree text).stat ⟨"run.json"⟩ = .ok (.file false) := rfl

theorem settings_withDirectories :
    (runOn (configTree oneDirectory) (withDirectories (some ⟨"inc"⟩) (some ⟨"src"⟩)).settings).1
      = .ok { input := ⟨"a.yaml"⟩, layout := .split ⟨"inc"⟩ ⟨"src"⟩, manifest := some ⟨"run.json"⟩,
              dryRun := true } ∧
    (runOn (configTree oneDirectory) (withDirectories (some ⟨"inc"⟩) (some ⟨"src"⟩)).settings).1
      = (runOn (configTree bodiesOnly) (withDirectories (some ⟨"inc"⟩) (some ⟨"src"⟩)).settings).1 ∧
    ∃ e, layoutOutcome? (runOn (configTree bodiesOnly) (withDirectories none none).settings).1
      = some (.error e) := by
  refine ⟨?_, ?_, ?_⟩
  · refine ((settings_precedence _).1 _ _).2 ⟨_, configures_oneDirectory _ _, ?_, ?_⟩
    · exact
        { input := prefers_iff.2 rfl
          profile := ⟨none, prefers_iff.2 rfl, rfl⟩
          templateDirectory := prefers_iff.2 rfl
          manifest := prefers_iff.2 rfl
          dryRun := by decide
          layout := rfl }
    · refine ⟨nofun, fun path hpath => ?_⟩
      cases hpath
      rw [stat_configTree]
      exact nofun
  · refine ((settings_precedence _).2.2.1 _ _ _ _ (configures_oneDirectory _ _)
      (configures_bodiesOnly _ _) rfl).2 rfl fun p hp => ?_
    rcases hp with hp | hp
    · exact nomatch hp
    · cases hp
      rw [stat_configTree, stat_configTree]
  · refine ((settings_precedence _).2.1 _ _ (configures_bodiesOnly _ _)).2 ⟨rfl, fun l hl => ?_⟩
    cases l <;> exact nomatch hl

end Arguments

end Faceting
