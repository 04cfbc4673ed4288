import Mathlib.Control.Monad.Basic
import CloudAudit.Config.Load
import CloudAudit.Proofs.Results
/-!
# Which source decides a setting

The environment goes over the configuration file, and the file over the defaults. A variable that is
set and not blank decides its setting, whatever the file says of it; only a word for whether to run
automatically that is no truth value counts as not set, so that the file decides.
-/
set_option autoImplicit false

namespace CloudAudit

/-- What the environment and the configuration file can settle. -/
inductive Setting where
  | bind
  | inventory
  | ownedGroups
  | orgSuffix
  | adminRoles
  | labelPattern
  | labelTemplate
  | notificationInterval
  | runInterval
  | automatic
  deriving DecidableEq, Repr

namespace Setting

/-- What a source says about a setting, as written. -/
inductive Written where
  | text (text : String)
  | texts (texts : List String)
  | truth (value : Bool)
  deriving DecidableEq, Repr

inductive Value where
  | address (address : SocketAddress)
  | path (path : Option String)
  | names (names : List String)
  | text (text : String)
  | length (length : Duration)
  | truth (value : Bool)
  deriving DecidableEq, Repr

def variableName : Setting → String
  | .bind => "POSTURE_BIND"
  | .inventory => "POSTURE_INVENTORY"
  | .ownedGroups => "POSTURE_OWNED_GROUPS"
  | .orgSuffix => "POSTURE_ORG_SUFFIX"
  | .adminRoles => "POSTURE_ADDITIONAL_ADMIN_ROLES"
  | .labelPattern => "POSTURE_LABEL_TO_EMAIL_REGEXP"
  | .labelTemplate => "POSTURE_LABEL_TO_EMAIL_SUBST"
  | .notificationInterval => "POSTURE_NOTIFICATION_INTERVAL"
  | .runInterval => "POSTURE_COLLECT_AND_SCAN_INTERVAL"
  | .automatic => "POSTURE_RUN_AUTOMATED_SCANS"

def written : Setting → Layer → Option Written
  | .bind, layer => layer.bind.map .text
  | .inventory, layer => layer.inventory.map .text
  | .ownedGroups, layer => layer.ownedGroups.map .texts
  | .orgSuffix, layer => layer.orgSuffix.map .text
  | .adminRoles, layer => layer.adminRoles.map .texts
  | .labelPattern, layer => layer.labelPattern.map .text
  | .labelTemplate, layer => layer.labelTemplate.map .text
  | .notificationInterval, layer => layer.notificationInterval.map .text
  | .runInterval, layer => layer.runInterval.map .text
  | .automatic, layer => layer.automatic.map .truth

/-- What the text of a variable says about its setting, if it says anything. -/
def heard? : Setting → String → Option Written
  | .ownedGroups, text | .adminRoles, text => some (.texts (Text.listed text))
  | .automatic, text => (Environment.truth? text).map .truth
  | _, text => some (.text text)

/-- The value that is meant by what is written, if it can be understood. -/
def meant? : Setting → Written → Option Value
  | .bind, .text text => (SocketAddress.ofText? text).map .address
  | .inventory, .text path => some (.path (some path))
  | .ownedGroups, .texts names | .adminRoles, .texts names => some (.names names)
  | .orgSuffix, .text text | .labelPattern, .text text | .labelTemplate, .text text =>
    some (.text text)
  | .notificationInterval, .text text | .runInterval, .text text =>
    (Duration.ofSpoken? (Text.trim text)).map .length
  | .automatic, .truth value => some (.truth value)
  | _, _ => none

/-- The value of a setting that no source makes; the suffix of the organisation has none. -/
def default? : Setting → Option Value
  | .bind => (SocketAddress.ofText? Config.defaultBind).map .address
  | .inventory => some (.path none)
  | .ownedGroups | .adminRoles => some (.names [])
  | .orgSuffix => none
  | .labelPattern => some (.text ({} : NotificationSettings).labelPattern)
  | .labelTemplate => some (.text ({} : NotificationSettings).labelTemplate)
  | .notificationInterval => some (.length ({} : NotificationSettings).interval)
  | .runInterval => some (.length ({} : PipelineSettings).interval)
  | .automatic => some (.truth ({} : PipelineSettings).automatic)

/-- The value that one source alone gives a setting, or its default. -/
def valueOf? (setting : Setting) (said : Option Written) : Option Value :=
  said.elim setting.default? setting.meant?

def effective : Setting → Config → Value
  | .bind, config => .address config.server.bind
  | .inventory, config => .path config.server.inventory
  | .ownedGroups, config => .names config.server.ownedGroups
  | .orgSuffix, config => .text config.settings.notifications.orgSuffix
  | .adminRoles, config => .names config.settings.notifications.additionalAdminRoles
  | .labelPattern, config => .text config.settings.notifications.labelPattern
  | .labelTemplate, config => .text config.settings.notifications.labelTemplate
  | .notificationInterval, config => .length config.settings.notifications.interval
  | .runInterval, config => .length config.settings.pipeline.interval
  | .automatic, config => .truth config.settings.pipeline.automatic

end Setting

def Environment.Sets (environment : Environment) (name text : String) : Prop :=
  environment name = some text ∧ Text.allBlank text = false

theorem Environment.text?_eq_some_iff (environment : Environment) (name text : String) :
    environment.text? name = some text ↔ environment.Sets name text := by
  rw [Environment.text?, Option.filter_eq_some_iff, Bool.not_eq_true']
  rfl

/-! ## What layers say -/

namespace Setting

theorem written_layer (setting : Setting) (environment : Environment) :
    setting.written environment.layer =
      (environment.text? setting.variableName).bind setting.heard? := by
  cases setting with
  | automatic =>
    change ((environment.text? _).bind Environment.truth?).map _ = _
    rw [Option.map_bind]
    rfl
  | ownedGroups | adminRoles =>
    change ((environment.text? _).map Text.listed).map _ = _
    rw [Option.map_map, Option.map_eq_bind]
    rfl
  | _ => exact Option.map_eq_bind

theorem written_onTopOf (setting : Setting) (upper lower : Layer) :
    setting.written (upper.onTopOf lower) =
      (setting.written upper).or (setting.written lower) := by
  cases setting <;> exact Option.map_or

theorem ext_written {first second : Layer}
    (same : ∀ setting : Setting, setting.written first = setting.written second) :
    first = second := by
  have texts : ∀ {one other : Option String},
      one.map Written.text = other.map Written.text → one = other :=
    fun equal => Option.map_injective (fun _ _ => Written.text.inj) equal
  have lists : ∀ {one other : Option (List String)},
      one.map Written.texts = other.map Written.texts → one = other :=
    fun equal => Option.map_injective (fun _ _ => Written.texts.inj) equal
  have truths : ∀ {one other : Option Bool},
      one.map Written.truth = other.map Written.truth → one = other :=
    fun equal => Option.map_injective (fun _ _ => Written.truth.inj) equal
  cases first
  cases second
  rw [Layer.mk.injEq]
  exact ⟨texts (same .bind), texts (same .inventory), lists (same .ownedGroups),
    texts (same .runInterval), truths (same .automatic), texts (same .orgSuffix),
    lists (same .adminRoles), texts (same .labelPattern), texts (same .labelTemplate),
    texts (same .notificationInterval)⟩

/-- Only a word for whether to run automatically may say nothing. -/
theorem heard?_eq_none_iff (setting : Setting) (text : String) :
    setting.heard? text = none ↔ setting = .automatic ∧ Environment.truth? text = none := by
  cases setting <;> simp [heard?]

end Setting

/-! ## From layers to settings -/

namespace Config

variable {layer : Layer}

theorem intervalOf_ok {key : ConfigKey} {said : Option String} {default length : Duration}
    (understood : intervalOf key said default = .ok length) :
    said.elim (some default) (fun text => Duration.ofSpoken? (Text.trim text)) = some length := by
  cases said with
  | none => exact congrArg some (Except.ok.inj understood)
  | some text =>
    simp only [intervalOf] at understood
    rw [Option.elim_some]
    split at understood
    · rename_i found
      rw [found, Except.ok.inj understood]
    · cases understood

theorem bindOf_ok {address : SocketAddress} (understood : bindOf layer = .ok address) :
    SocketAddress.ofText? (layer.bind.getD defaultBind) = some address := by
  simp only [bindOf] at understood
  split at understood
  · rename_i found
    rw [found, Except.ok.inj understood]
  · cases understood

theorem orgSuffixOf_ok {suffix : String} (understood : orgSuffixOf layer = .ok suffix) :
    layer.orgSuffix = some suffix := by
  simp only [orgSuffixOf] at understood
  split at understood
  · rename_i found
    rw [found, Except.ok.inj understood]
  · cases understood

theorem settingsOf_ok {settings : Settings} (understood : settingsOf layer = .ok settings) :
    ∃ runInterval orgSuffix notificationInterval,
      intervalOf .runInterval layer.runInterval ({} : PipelineSettings).interval =
        .ok runInterval ∧
      layer.orgSuffix = some orgSuffix ∧
      intervalOf .notificationInterval layer.notificationInterval
        ({} : NotificationSettings).interval = .ok notificationInterval ∧
      settings = {
        pipeline := {
          interval := runInterval
          automatic := layer.automatic.getD ({} : PipelineSettings).automatic }
        notifications := {
          orgSuffix
          additionalAdminRoles := layer.adminRoles.getD []
          labelPattern := layer.labelPattern.getD ({} : NotificationSettings).labelPattern
          labelTemplate := layer.labelTemplate.getD ({} : NotificationSettings).labelTemplate
          interval := notificationInterval } } := by
  rw [settingsOf] at understood
  obtain ⟨runInterval, ranEvery, understood⟩ := Results.bind_ok_iff.1 understood
  obtain ⟨orgSuffix, ends, understood⟩ := Results.bind_ok_iff.1 understood
  obtain ⟨notificationInterval, notifies, understood⟩ := Results.bind_ok_iff.1 understood
  exact ⟨runInterval, orgSuffix, notificationInterval, ranEvery, orgSuffixOf_ok ends, notifies,
    (Except.ok.inj understood).symm⟩

theorem compose_ok {filePath : Option String} {load : ConfigLoad}
    (composed : compose layer filePath = .ok load) :
    bindOf layer = .ok load.config.server.bind ∧
    load.config.server.inventory = layer.inventory ∧
    load.config.server.ownedGroups = layer.ownedGroups.getD [] ∧
    settingsOf layer = .ok load.config.settings := by
  rw [compose] at composed
  obtain ⟨bind, bound, composed⟩ := Results.bind_ok_iff.1 composed
  obtain ⟨settings, understood, composed⟩ := Results.bind_ok_iff.1 composed
  obtain ⟨_, _, composed⟩ := Results.bind_ok_iff.1 composed
  obtain rfl := Except.ok.inj composed
  exact ⟨bound, rfl, rfl, understood⟩

/-- Every setting in effect is what the layers say of it, or its default. -/
theorem effective_of_composed {filePath : Option String} {load : ConfigLoad}
    (composed : compose layer filePath = .ok load) (setting : Setting) :
    setting.valueOf? (setting.written layer) = some (setting.effective load.config) := by
  obtain ⟨bound, inventory, owned, understood⟩ := compose_ok composed
  obtain ⟨runInterval, orgSuffix, notificationInterval, ranEvery, ends, notifies, settings⟩ :=
    settingsOf_ok understood
  have ranEvery := intervalOf_ok ranEvery
  have notifies := intervalOf_ok notifies
  have bound := bindOf_ok bound
  rw [Setting.valueOf?]
  cases setting with
  | bind =>
    rw [Setting.effective, Setting.written]
    cases said : layer.bind with
    | none =>
      rw [said, Option.getD_none] at bound
      rw [Option.map_none, Option.elim_none, Setting.default?, bound, Option.map_some]
    | some text =>
      rw [said, Option.getD_some] at bound
      rw [Option.map_some, Option.elim_some, Setting.meant?, bound, Option.map_some]
  | runInterval =>
    rw [Setting.effective, Setting.written, settings]
    cases said : layer.runInterval with
    | none =>
      rw [said, Option.elim_none] at ranEvery
      rw [Option.map_none, Option.elim_none, Setting.default?, Option.some.inj ranEvery]
    | some text =>
      rw [said, Option.elim_some] at ranEvery
      rw [Option.map_some, Option.elim_some, Setting.meant?, ranEvery, Option.map_some]
  | notificationInterval =>
    rw [Setting.effective, Setting.written, settings]
    cases said : layer.notificationInterval with
    | none =>
      rw [said, Option.elim_none] at notifies
      rw [Option.map_none, Option.elim_none, Setting.default?, Option.some.inj notifies]
    | some text =>
      rw [said, Option.elim_some] at notifies
      rw [Option.map_some, Option.elim_some, Setting.meant?, notifies, Option.map_some]
  | orgSuffix =>
    simp only [Setting.written, Setting.effective, settings, ends]
    rfl
  | inventory =>
    simp only [Setting.written, Setting.effective, inventory]
    cases layer.inventory <;> rfl
  | ownedGroups =>
    simp only [Setting.written, Setting.effective, owned]
    cases layer.ownedGroups <;> rfl
  | adminRoles =>
    simp only [Setting.written, Setting.effective, settings]
    cases layer.adminRoles <;> rfl
  | labelPattern =>
    simp only [Setting.written, Setting.effective, settings]
    cases layer.labelPattern <;> rfl
  | labelTemplate =>
    simp only [Setting.written, Setting.effective, settings]
    cases layer.labelTemplate <;> rfl
  | automatic =>
    simp only [Setting.written, Setting.effective, settings]
    cases layer.automatic <;> rfl

/-! ## From files to settings -/

/-- What the configuration file says, and where it stands; nothing where there is none. -/
def filePart (look : String → PathContent) (options : LoadOptions) (environment : Environment) :
    Except ConfigError (Layer × Option String) := do
  match ← filePathOf look options environment with
  | none => return ({}, none)
  | some path => return (← fileLayer look path, some path)

theorem loadWith_eq (look : String → PathContent) (options : LoadOptions)
    (environment : Environment) :
    loadWith look options environment =
      filePart look options environment >>= fun found =>
        compose (environment.layer.onTopOf found.1) found.2 := by
  have alone : environment.layer.onTopOf {} = environment.layer := by
    simp [Layer.onTopOf]
  rw [loadWith, filePart]
  cases filePathOf look options environment with
  | error error => rfl
  | ok found =>
    cases found with
    | none => exact congrArg (fun layer => compose layer none) alone.symm
    | some path =>
      change (fileLayer look path >>= fun file =>
          compose (environment.layer.onTopOf file) (some path)) =
        (fileLayer look path >>= fun file => pure (file, some path)) >>= _
      cases fileLayer look path <;> rfl

end Config

def Layer.SameBut (setting : Setting) (first second : Layer) : Prop :=
  ∀ other : Setting, other ≠ setting → other.written first = other.written second

theorem Layer.SameBut.onTopOf_eq {setting : Setting} {upper first second : Layer}
    (same : first.SameBut setting second) {said : Setting.Written}
    (decided : setting.written upper = some said) :
    upper.onTopOf first = upper.onTopOf second := by
  refine Setting.ext_written fun other => ?_
  rw [Setting.written_onTopOf, Setting.written_onTopOf]
  by_cases here : other = setting
  · rw [here, decided, Option.some_or, Option.some_or]
  · rw [same other here]

namespace Config

section

variable {look : String → PathContent} {options : LoadOptions} {environment : Environment}
  {file : Layer} {path : Option String}

theorem loadWith_of_filePart (found : filePart look options environment = .ok (file, path)) :
    loadWith look options environment = compose (environment.layer.onTopOf file) path := by
  rw [loadWith_eq, found]
  rfl

/-- A variable that is set, not blank and says something about its setting decides it, and what the
file says of it makes no difference, to errors neither. Otherwise the setting is as the file has it,
or the default. Only a word for whether to run automatically may say nothing. -/
theorem variables_decide_settings (found : filePart look options environment = .ok (file, path))
    (setting : Setting) :
    (∀ text said, environment.Sets setting.variableName text → setting.heard? text = some said →
      (∀ load, loadWith look options environment = .ok load →
        setting.meant? said = some (setting.effective load.config)) ∧
      ∀ otherLook otherFile,
        filePart otherLook options environment = .ok (otherFile, path) →
        file.SameBut setting otherFile →
        loadWith otherLook options environment = loadWith look options environment) ∧
    ((∀ text, environment.Sets setting.variableName text → setting.heard? text = none) →
      ∀ load, loadWith look options environment = .ok load →
        setting.valueOf? (setting.written file) = some (setting.effective load.config)) ∧
    ∀ text, setting.heard? text = none ↔
      setting = .automatic ∧ Environment.truth? text = none := by
  rw [loadWith_of_filePart found]
  refine ⟨?_, ?_, setting.heard?_eq_none_iff⟩
  · intro text said isSet heard
    have decided : setting.written environment.layer = some said := by
      rw [Setting.written_layer, (environment.text?_eq_some_iff _ _).2 isSet]
      exact heard
    constructor
    · intro load loaded
      have value := effective_of_composed loaded setting
      rw [Setting.written_onTopOf, decided, Option.some_or] at value
      exact value
    · intro otherLook otherFile otherFound same
      rw [loadWith_of_filePart otherFound, same.onTopOf_eq decided]
  · intro unheard load loaded
    have undecided : setting.written environment.layer = none := by
      rw [Setting.written_layer]
      cases said : environment.text? setting.variableName with
      | none => rfl
      | some text => exact unheard text ((environment.text?_eq_some_iff _ _).1 said)
    have value := effective_of_composed loaded setting
    rw [Setting.written_onTopOf, undecided, Option.none_or] at value
    exact value

end

/-! A file, variables that go over it, and a word that is no truth value. -/
namespace Overridden

def content (automatic : Bool) : String :=
  "[pipeline]\nrun_automated_scans = " ++ (if automatic then "true" else "false") ++
    "\n[notifications]\norg_suffix = \"@file.com\"\ninterval = \"2h\"\n"

def look (automatic : Bool) (path : String) : PathContent :=
  if path = "posture.toml" then .text (content automatic) else .missing

def environment : Environment := fun name =>
  if name = "POSTURE_ORG_SUFFIX" then some "@env.com"
  else if name = "POSTURE_NOTIFICATION_INTERVAL" then some " "
  else if name = "POSTURE_RUN_AUTOMATED_SCANS" then some "disabled"
  else none

def file (automatic : Bool) : Layer where
  automatic := some automatic
  orgSuffix := some "@file.com"
  notificationInterval := some "2h"

theorem loads (automatic : Bool) :
    filePart (look automatic) {} environment =
      .ok (file automatic, some "posture.toml") ∧
    ∃ load, loadWith (look automatic) {} environment = .ok load ∧
      Setting.automatic.effective load.config = .truth automatic := by
  have evaluated :
      filePart (look automatic) {} environment =
        .ok (file automatic, some "posture.toml") ∧
      (loadWith (look automatic) {} environment).toOption.map
        (fun load => Setting.automatic.effective load.config) = some (.truth automatic) := by
    cases automatic <;> decide +kernel
  obtain ⟨load, loaded, value⟩ := Option.map_eq_some_iff.1 evaluated.2
  exact ⟨evaluated.1, load, Results.toOption_eq_some_iff.1 loaded, value⟩

theorem suffix_set_interval_blank :
    filePart (look true) {} environment = .ok (file true, some "posture.toml") ∧
    ∃ load, loadWith (look true) {} environment = .ok load ∧
      Setting.orgSuffix.effective load.config = .text "@env.com" ∧
      some (Setting.notificationInterval.effective load.config) =
        (Duration.ofSpoken? "2h").map .length := by
  obtain ⟨found, load, loaded, -⟩ := loads true
  have blank : ∀ text, environment.Sets "POSTURE_NOTIFICATION_INTERVAL" text →
      Setting.notificationInterval.heard? text = none := by
    rintro text ⟨isSet, visible⟩
    obtain rfl := Option.some.inj isSet
    exact absurd visible (by decide)
  refine ⟨found, load, loaded, ?_, ?_⟩
  · exact (Option.some.inj (((variables_decide_settings found .orgSuffix).1 "@env.com"
      (.text "@env.com") ⟨rfl, by decide⟩ rfl).1 load loaded)).symm
  · exact ((variables_decide_settings found .notificationInterval).2.1 blank load loaded).symm

end Overridden

/-- A variable that is set to a word that is no truth value leaves it to the file whether to run
automatically. -/
theorem unknown_word_lets_file_decide :
    ¬ ∀ (setting : Setting) (environment : Environment) (text : String)
        (look otherLook : String → PathContent) (options : LoadOptions) (file otherFile : Layer)
        (path : Option String) (load otherLoad : ConfigLoad),
      environment.Sets setting.variableName text →
      filePart look options environment = .ok (file, path) →
      filePart otherLook options environment = .ok (otherFile, path) →
      file.SameBut setting otherFile →
      loadWith look options environment = .ok load →
      loadWith otherLook options environment = .ok otherLoad →
      setting.effective load.config = setting.effective otherLoad.config := by
  intro decides
  obtain ⟨found, load, loaded, value⟩ := Overridden.loads false
  obtain ⟨otherFound, otherLoad, otherLoaded, otherValue⟩ := Overridden.loads true
  have same : (Overridden.file false).SameBut .automatic (Overridden.file true) := by
    intro other differs
    cases other with
    | automatic => exact absurd rfl differs
    | _ => rfl
  have equal := decides .automatic Overridden.environment "disabled" _ _ {} _ _ _ load otherLoad
    ⟨rfl, by decide⟩ found otherFound same loaded otherLoaded
  rw [value, otherValue] at equal
  cases equal

end Config

end CloudAudit
