import CanvasLint.Proofs.Command.CheckOutcome
import CanvasLint.Proofs.Config.Search
import Mathlib.Order.WellFounded

/-! Which rules a scan has. Of the places that have rules to offer the first counts, and nothing but
what it says: the places after it may say anything, and need not even make sense. But two places may
be one file, and what that says then counts for the first of them. -/
namespace CanvasLint

open FileTree (Rewrites)

variable {t t' : FileTree} {source source' : ConfigSource} {path : Path}

/-! ### Rule sets beside configurations -/

namespace ConfigSource

/-- The rule set in the directory of the configuration. Only a file is one. -/
inductive Beside (t : FileTree) (source : ConfigSource) : Path → Prop
  | child {file directory : Path} (named : source.file? = some file)
      (above : file.parent? = some directory) (held : t.Holds directory ruleSetName) :
      Beside t source (directory.child ruleSetName)

theorem ruleSet?_eq_some : source.ruleSet? t = some path ↔ Beside t source path := by
  have guarded (directory : Path) :
      (do guard (t.isFile (directory.child ruleSetName)); return directory.child ruleSetName) =
        some path ↔ t.Holds directory ruleSetName ∧ directory.child ruleSetName = path := by
    rw [← FileTree.isFile_child]
    cases t.isFile (directory.child ruleSetName) <;> simp [guard]
  simp only [ruleSet?, Option.bind_eq_bind, Option.bind_eq_some_iff] at guarded ⊢
  constructor
  · rintro ⟨file, named, directory, above, given⟩
    obtain ⟨held, rfl⟩ := (guarded directory).mp given
    exact .child named above held
  · intro beside
    cases beside with
    | child named above held => exact ⟨_, named, _, above, (guarded _).mpr ⟨held, rfl⟩⟩

theorem ruleSet?_eq_none : source.ruleSet? t = Option.none ↔ ∀ path, ¬ Beside t source path := by
  simp only [Option.eq_none_iff_forall_ne_some, ne_eq, ruleSet?_eq_some]

section Rewrites

variable (rewrites : Rewrites t t')
include rewrites

/-- Where the configuration comes from does not depend on what files say. -/
theorem ofDocument_of_rewrites (document : Path) (request personal : Option Path) :
    ofDocument t' document request personal = ofDocument t document request personal := by
  have file : t'.isFile = t.isFile := funext rewrites.isFile
  have project : projectFile? t' = projectFile? t := by
    funext directory
    rw [projectFile?, projectFile?, file]
  have own : personalFile? t' = personalFile? t := by
    funext directory
    rw [personalFile?, personalFile?, file]
  simp only [ofDocument, nearest, rewrites.absolute?, project, own]

theorem beside_of_rewrites : Beside t' source path ↔ Beside t source path := by
  rw [← ruleSet?_eq_some, ← ruleSet?_eq_some, ruleSet?, ruleSet?]
  simp only [rewrites.isFile]

end Rewrites

end ConfigSource

namespace Command.CheckRequest

open ConfigSource (Beside)

/-! ### The places that may have rules to offer -/

/-- Where the rules of a scan may come from. -/
inductive Origin where
  | requestedFile (path : Path)
  | requestedPreset (name : String)
  | besideConfig (path : Path)
  | configPreset (name : String)
  | usual

namespace Origin

def ruleSource : Origin → RuleSource
  | requestedFile path | besideConfig path => .file path
  | requestedPreset name | configPreset name => .preset name
  | usual => .preset Preset.recommended.name

/-- The origins of a lower rank go first. -/
@[simp]
def rank : Origin → ℕ
  | requestedFile _ => 0
  | requestedPreset _ => 1
  | besideConfig _ => 2
  | configPreset _ => 3
  | usual => 4

/-- The request itself names the rules. -/
def IsRequested : Origin → Prop
  | requestedFile _ | requestedPreset _ => True
  | besideConfig _ | configPreset _ | usual => False

/-- The file that the origin depends on for what it says. -/
def file? (source : ConfigSource) : Origin → Option Path
  | requestedFile path | besideConfig path => some path
  | requestedPreset _ => none
  | configPreset _ | usual => source.file?

end Origin

variable {r : CheckRequest} {config config' : Config} {asked personal : Option Path}
  {o o' : Origin}

/-- The origin has rules to offer. The recommended ones are offered at any rate. -/
def Offers (r : CheckRequest) (t : FileTree) (source : ConfigSource) (config : Config) :
    Origin → Prop
  | .requestedFile path => r.rules = some path
  | .requestedPreset name => r.preset = some name
  | .besideConfig path => Beside t source path
  | .configPreset name => config.preset = some name
  | .usual => True

/-- The first of the origins that have rules to offer. -/
structure First (r : CheckRequest) (t : FileTree) (source : ConfigSource) (config : Config)
    (o : Origin) : Prop where
  offers : Offers r t source config o
  least : ∀ o', Offers r t source config o' → o.rank ≤ o'.rank

theorem exists_first (r : CheckRequest) (t : FileTree) (source : ConfigSource) (config : Config) :
    ∃ o, First r t source config o := by
  obtain ⟨o, offers, least⟩ := (measure Origin.rank).wf.has_min
    {o | Offers r t source config o} ⟨.usual, trivial⟩
  exact ⟨o, offers, fun o' offers' => not_lt.mp (least o' offers')⟩

namespace First

variable (first : First r t source config o)
include first

theorem not_offers (o' : Origin) (earlier : o'.rank < o.rank) : ¬ Offers r t source config o' :=
  fun offers => (first.least o' offers).not_gt earlier

theorem rules_eq_none (later : 0 < o.rank) : r.rules = none :=
  Option.eq_none_iff_forall_ne_some.mpr fun path =>
    first.not_offers (.requestedFile path) later

theorem preset_eq_none (later : 1 < o.rank) : r.preset = none :=
  Option.eq_none_iff_forall_ne_some.mpr fun name =>
    first.not_offers (.requestedPreset name) later

theorem ruleSet?_eq_none (later : 2 < o.rank) : source.ruleSet? t = none :=
  ConfigSource.ruleSet?_eq_none.mpr fun path => first.not_offers (.besideConfig path) later

theorem config_preset_eq_none (later : 3 < o.rank) : config.preset = none :=
  Option.eq_none_iff_forall_ne_some.mpr fun name =>
    first.not_offers (.configPreset name) later

theorem ruleSource_eq : r.ruleSource t source config = o.ruleSource := by
  have offers := first.offers
  unfold CheckRequest.ruleSource
  cases o with
  | requestedFile path => rw [show r.rules = some path from offers, Origin.ruleSource]
  | requestedPreset name =>
    rw [first.rules_eq_none (by simp), show r.preset = some name from offers, Origin.ruleSource]
  | besideConfig path =>
    rw [first.rules_eq_none (by simp), first.preset_eq_none (by simp),
      ConfigSource.ruleSet?_eq_some.mpr offers, Origin.ruleSource]
  | configPreset name =>
    rw [first.rules_eq_none (by simp), first.preset_eq_none (by simp),
      first.ruleSet?_eq_none (by simp), show config.preset = some name from offers,
      Option.getD_some, Origin.ruleSource]
  | usual =>
    rw [first.rules_eq_none (by simp), first.preset_eq_none (by simp),
      first.ruleSet?_eq_none (by simp), first.config_preset_eq_none (by simp),
      Option.getD_none, Origin.ruleSource]

theorem unique (first' : First r t source config o') : o' = o := by
  have offers := first.offers
  have offers' := first'.offers
  have ranks := le_antisymm (first.least o' offers') (first'.least o offers)
  cases o <;> cases o' <;> cases ranks
  case requestedFile | requestedPreset | configPreset =>
    rw [Option.some.inj (offers.symm.trans offers')]
  case besideConfig =>
    have given := ConfigSource.ruleSet?_eq_some.mpr offers
    rw [Option.some.inj (given.symm.trans (ConfigSource.ruleSet?_eq_some.mpr offers'))]
  case usual => rfl

end First

theorem First.select_eq (first : First r t source config o) :
    r.select t source config = o.ruleSource.rules t := by
  rw [select, first.ruleSource_eq]

/-! ### What other files say -/

/-- A configuration is what its file says. -/
theorem Configures.eq_of_read (configured : Configures t source config)
    (configured' : Configures t' source config')
    (same : ∀ path, source.file? = some path → t'.read? path = t.read? path) :
    config' = config := by
  have made := configFrom_eq_ok.mpr configured'
  have agrees : configFrom t' source = configFrom t source := by
    rw [configFrom, configFrom]
    cases named : source.file? with
    | none => rfl
    | some path => simp only [same path named]
  rw [agrees, configFrom_eq_ok.mpr configured] at made
  exact (Except.ok.inj made).symm

section OtherFiles

variable (kept : o.IsRequested ∨ Rewrites t t' ∧ source' = source)
  (same : ∀ path, o.file? source = some path → t'.read? path = t.read? path)
  (configured : Configures t source config) (configured' : Configures t' source' config')
include kept same configured configured'

/-- Up to an origin the same is offered where its file says the same. -/
private theorem offers_iff (within : o'.rank ≤ o.rank) :
    Offers r t' source' config' o' ↔ Offers r t source config o' := by
  cases o' with
  | requestedFile path => exact Iff.rfl
  | requestedPreset name => exact Iff.rfl
  | besideConfig path =>
    rcases kept with requested | ⟨rewrites, rfl⟩
    · cases o <;> simp [Origin.IsRequested] at requested within
    · exact ConfigSource.beside_of_rewrites rewrites
  | configPreset name =>
    rcases kept with requested | ⟨-, rfl⟩
    · cases o <;> simp [Origin.IsRequested] at requested within
    · -- only an origin that depends on the configuration comes this late
      have config' : config' = config := by
        cases o with
        | configPreset | usual => exact configured.eq_of_read configured' same
        | requestedFile | requestedPreset | besideConfig => simp at within
      rw [Offers, Offers, config']
  | usual => exact Iff.rfl

/-- What comes first still does. -/
theorem First.of_same (first : First r t source config o) : First r t' source' config' o where
  offers := (offers_iff kept same configured configured' le_rfl).mpr first.offers
  least o' offers' := by
    by_contra later
    have within : o'.rank ≤ o.rank := (not_le.mp later).le
    exact later (first.least o' ((offers_iff kept same configured configured' within).mp offers'))

/-- Then the same rules are selected, or none for the same reason. -/
theorem First.select_of_same (first : First r t source config o) :
    r.select t' source' config' = r.select t source config := by
  have file {path : Path} (read : t'.read? path = t.read? path) :
      rulesFrom t' path = rulesFrom t path := by rw [rulesFrom, rulesFrom, read]
  rw [(first.of_same kept same configured configured').select_eq, first.select_eq]
  cases o with
  | requestedFile path | besideConfig path => exact file (same path rfl)
  | requestedPreset name | configPreset name => rfl
  | usual => rfl

end OtherFiles

/-- With its configuration at hand a scan has the rules of the first origin that offers any, or fails
as that origin does. It ends up with the same where files say something else, and in any other tree
if the request itself names the rules, as long as the file of this origin says the same there. -/
theorem selected_from_first (r : CheckRequest) (t : FileTree) (asked personal : Option Path)
    (config : Config)
    (configured : Configures t (.ofDocument t r.document asked personal) config) :
    let source (t : FileTree) := ConfigSource.ofDocument t r.document asked personal
    ∃ o, First r t (source t) config o ∧
      (∀ o', First r t (source t) config o' → o' = o) ∧
      (∀ rules, r.select t (source t) config = .ok rules ↔ Supplies t o.ruleSource rules) ∧
      (∀ failure, r.select t (source t) config = .error failure ↔
        Refuses t o.ruleSource failure) ∧
      ∀ t' config', o.IsRequested ∨ Rewrites t t' →
        (∀ path, o.file? (source t) = some path → t'.read? path = t.read? path) →
        Configures t' (source t') config' →
        r.select t' (source t') config' = r.select t (source t) config := by
  intro source
  obtain ⟨o, first⟩ := exists_first r t (source t) config
  refine ⟨o, first, fun o' => first.unique, ?_, ?_, ?_⟩
  · intro rules
    rw [first.select_eq, rules_eq_ok]
  · intro failure
    rw [first.select_eq, rules_eq_error]
  · intro t' config' kept same configured'
    have kept' : o.IsRequested ∨ Rewrites t t' ∧ source t' = source t :=
      kept.imp_right fun rewrites =>
        ⟨rewrites, ConfigSource.ofDocument_of_rewrites rewrites r.document asked personal⟩
    exact first.select_of_same kept' same configured configured'

/-- A stall with a configuration and a rule set of its own. -/
def stallFiles (config rules : String) : FileTree where
  entries := [(["stall", "spec-lint.toml"], .text config), (["stall", "rules.json"], .text rules),
    (["stall", "cart.json"], .text "\x7b\x7d")]
  current := ["stall"]

def stallConfig : Path := ⟨.root, ["stall", "spec-lint.toml"]⟩

def stallRules : Path := ⟨.root, ["stall", "rules.json"]⟩

/-- A rule set with one rule. -/
def payRules : String :=
  "[\x7b\"id\": \"pay\", \"description\": \"Say pay\", \"type\": \"required-text\", "
    ++ "\"condition\": \x7b\"text\": \"Pay\"\x7d\x7d]"

private theorem stall_rewrites (config config' rules rules' : String) :
    Rewrites (stallFiles config rules) (stallFiles config' rules') where
  current := rfl
  silent l := by
    simp only [FileTree.at?, stallFiles, List.lookup_cons, List.any_cons]
    cases l == ["stall", "spec-lint.toml"] <;> cases l == ["stall", "rules.json"] <;> rfl

private theorem stall_source (config rules : String) : ConfigSource.ofDocument
    (stallFiles config rules) ⟨.bare, ["cart.json"]⟩ none none = .project stallConfig :=
  (ConfigSource.ofDocument_of_rewrites (stall_rewrites "" config "" rules) _ _ _).trans
    (by decide +kernel)

private theorem stall_configures {text : String} (rules : String) {config : Config}
    (read : Config.ofText text = .ok config) : Configures (stallFiles text rules)
      (.ofDocument (stallFiles text rules) ⟨.bare, ["cart.json"]⟩ none none) config := by
  rw [stall_source]
  exact .file rfl rfl read

private theorem stall_beside (config rules : String) : Beside (stallFiles config rules)
    (.ofDocument (stallFiles config rules) ⟨.bare, ["cart.json"]⟩ none none) stallRules := by
  rw [stall_source]
  exact (ConfigSource.beside_of_rewrites (stall_rewrites "" config "" rules)).mpr
    (ConfigSource.ruleSet?_eq_some.mp (by decide +kernel))

private theorem exists_ofText_payRules : ∃ rules,
    RuleSet.ofText stallRules.text payRules = .ok rules ∧ rules.map Rule.id = ["pay"] := by
  have listed : (RuleSet.ofText stallRules.text payRules).toOption.map (·.map Rule.id) =
      some ["pay"] := by decide +kernel
  obtain ⟨rules, parsed, listed⟩ := Option.map_eq_some_iff.mp listed
  exact ⟨rules, Outcome.toOption_eq_some.mp parsed, listed⟩

private theorem exists_ofText (text : String) (preset : Option String)
    (read : (Config.ofText text).toOption.map Config.preset = some preset) :
    ∃ config, Config.ofText text = .ok config ∧ config.preset = preset := by
  obtain ⟨config, read, named⟩ := Option.map_eq_some_iff.mp read
  exact ⟨config, Outcome.toOption_eq_some.mp read, named⟩

/-- The rule set beside the configuration counts whichever preset the configuration names, even one
that there is not. And where the request names a preset, that rule set need not make sense. -/
theorem selected_from_first_stall :
    let r : CheckRequest := { document := ⟨.bare, ["cart.json"]⟩ }
    let basic : CheckRequest := { r with preset := some "basic" }
    let source (t : FileTree) := ConfigSource.ofDocument t r.document none none
    let stall := stallFiles "preset = \"strict\"" payRules
    let renamed := stallFiles "preset = \"recommended\"" payRules
    let broken := stallFiles "preset = \"strict\"" "pay!"
    ∃ config config' rules, (Configures stall (source stall) config ∧
        Configures broken (source broken) config ∧ config.preset = some "strict") ∧
      (Configures renamed (source renamed) config' ∧ config'.preset = some "recommended") ∧
      (r.select stall (source stall) config = .ok rules ∧ rules.map Rule.id = ["pay"] ∧
        r.select renamed (source renamed) config' = .ok rules) ∧
      basic.select stall (source stall) config = .ok Preset.basic.rules ∧
      basic.select broken (source broken) config = .ok Preset.basic.rules := by
  intro r basic source stall renamed broken
  obtain ⟨config, read, named⟩ := exists_ofText "preset = \"strict\"" (some "strict")
    (by decide +kernel)
  obtain ⟨config', read', named'⟩ := exists_ofText "preset = \"recommended\"" (some "recommended")
    (by decide +kernel)
  have configured := stall_configures payRules read
  have configured' := stall_configures payRules read'
  have configured'' := stall_configures "pay!" read
  obtain ⟨rules, parsed, listed⟩ := exists_ofText_payRules
  refine ⟨config, config', rules, ⟨configured, configured'', named⟩, ⟨configured', named'⟩, ?_⟩
  constructor
  · obtain ⟨o, -, unique, supplied, -, stays⟩ :=
      selected_from_first r stall none none config configured
    have first : First r stall (source stall) config (.besideConfig stallRules) := by
      refine ⟨stall_beside _ _, fun o' offers => ?_⟩
      cases o' with
      | requestedFile | requestedPreset => cases offers
      | besideConfig | configPreset | usual => simp
    obtain rfl := unique _ first
    have given := (supplied rules).mpr (.file (by decide +kernel) parsed)
    refine ⟨given, listed, (stays renamed config' (.inr (stall_rewrites ..)) ?_ configured').trans
      given⟩
    rintro path ⟨⟩
    decide +kernel
  · obtain ⟨o, -, unique, supplied, -, stays⟩ :=
      selected_from_first basic stall none none config configured
    have first : First basic stall (source stall) config (.requestedPreset "basic") := by
      refine ⟨rfl, fun o' offers => ?_⟩
      cases o' with
      | requestedFile => cases offers
      | requestedPreset | besideConfig | configPreset | usual => simp
    obtain rfl := unique _ first
    have given := (supplied _).mpr (.preset .basic)
    exact ⟨given, (stays broken config (.inl trivial) nofun configured'').trans given⟩

/-- The rule set beside the configuration may be the very file that the request names. Then what that
file says counts. -/
theorem requested_beside_counts :
    let r : CheckRequest :=
      { document := ⟨.bare, ["cart.json"]⟩, rules := some ⟨.bare, ["rules.json"]⟩ }
    let source (t : FileTree) := ConfigSource.ofDocument t r.document none none
    let stall := stallFiles "" payRules
    let emptied := stallFiles "" "[]"
    ∃ config, Configures stall (source stall) config ∧ Configures emptied (source emptied) config ∧
      First r stall (source stall) config (.requestedFile ⟨.bare, ["rules.json"]⟩) ∧
      Offers r stall (source stall) config (.besideConfig stallRules) ∧
      Rewrites stall emptied ∧
      r.select emptied (source emptied) config ≠ r.select stall (source stall) config := by
  intro r source stall emptied
  obtain ⟨config, read, -⟩ := exists_ofText "" none (by decide +kernel)
  refine ⟨config, stall_configures payRules read, stall_configures "[]" read,
    ⟨rfl, fun _ _ => Nat.zero_le _⟩, stall_beside _ _, stall_rewrites .., fun same => ?_⟩
  have differ : (rulesFrom emptied ⟨.bare, ["rules.json"]⟩).toOption.map List.length ≠
      (rulesFrom stall ⟨.bare, ["rules.json"]⟩).toOption.map List.length := by decide +kernel
  exact differ (congrArg (fun rules => rules.toOption.map List.length) same)

end Command.CheckRequest

end CanvasLint
