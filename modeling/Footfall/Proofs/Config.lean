import Mathlib
import Footfall.Config

/-!
# Where settings come from

A setting has up to three sources: its variable, its member of a file, and a value of
its own.  Each source is asked in this order, and the first one that is valid decides.
A file is valid as a whole or not at all, while every variable is judged on its own.

There is one exception.  The variable of the switch `rejectUnresolved` decides whatever
its text is, and a text that is no value of a switch turns it off, even where the file
turns it on.

## Main Definitions

* `Setting` — the sources of a setting
* `switch?` — the texts that are values of a switch
* `Setting.value` — the value of a setting by the order of its sources
* `WellTyped`, `soundMembers?` — a file that is valid as a whole
* `Config.FromSources` — every setting is that of its sources

## Main Statements

* `Config.ofFile_eq` — the settings of a file
* `Config.settings_from_sources` — the settings of the service
* `Config.switch_off_by_mistyped_variable` — a text that is no value turns the switch off
-/

namespace Footfall

/-! ## Settings and their sources -/

/-- The sources of a setting. -/
structure Setting (α : Type) where
  /-- The name of its member in a file. -/
  member : String
  /-- The value of a member of the right kind and range. -/
  held? : Toml.Node → Option α
  /-- The name of its variable, if it has one. -/
  override : Option String
  /-- The value that a valid text of the variable writes. -/
  written? : String → Option α
  /-- Its value without any of these. -/
  unset : α

/-- The value that the text of a switch writes: on or off, as a digit or a word in either case. -/
def switch? (text : String) : Option Bool :=
  if text = "1" ∨ text.toLower = "true" then some true
  else if text = "0" ∨ text.toLower = "false" then some false
  else none

namespace Setting

/-- A setting that is any text. -/
def text (member override unset : String) : Setting String :=
  ⟨member, Toml.Node.text?, some override, some, unset⟩

/-- A setting that is a number below a bound. -/
def number (member override : String) (bound unset : ℕ) : Setting ℕ :=
  ⟨member, Toml.Node.below? bound, some override, naturalBelow? bound, unset⟩

/-- The sources of `Config.host`. -/
def host : Setting String :=
  text "host" "TIDEMARK_HOST" "0.0.0.0"

/-- The sources of `Config.port`. -/
def port : Setting ℕ :=
  number "port" "TIDEMARK_PORT" 65536 8000

/-- The sources of `Config.dataDir`. -/
def dataDir : Setting String :=
  text "data_dir" "TIDEMARK_DATA_DIR" "data"

/-- The sources of `Config.siteIds`, which has no variable. -/
def siteIds : Setting (List String) :=
  ⟨"site_ids", Toml.Node.texts?, none, fun _ => none, []⟩

/-- The sources of `Config.geoDatabase`. -/
def geoDatabase : Setting (Option String) :=
  ⟨"geoip_db_path", (·.text?.map some), some "TIDEMARK_GEOIP_DB", fun text => some (some text),
    none⟩

/-- The sources of `Config.rejectUnresolved`. -/
def rejectUnresolved : Setting Bool :=
  ⟨"reject_unresolved", Toml.Node.bool?, some "TIDEMARK_REJECT_UNRESOLVED", switch?, false⟩

/-- The sources of `Config.compactionDelay`. -/
def compactionDelay : Setting ℕ :=
  number "compaction_delay_secs" "TIDEMARK_COMPACTION_DELAY" 18446744073709551616 120

/-- The sources of `Config.repairLookback`. -/
def repairLookback : Setting ℕ :=
  number "repair_lookback_days" "TIDEMARK_REPAIR_LOOKBACK" 4294967296 7

/-- The sources of `Config.shutdownTimeout`. -/
def shutdownTimeout : Setting ℕ :=
  number "shutdown_timeout_secs" "TIDEMARK_SHUTDOWN_TIMEOUT" 18446744073709551616 30

/-- The settings that are numbers. -/
def numbers : List (Setting ℕ) :=
  [port, compactionDelay, repairLookback, shutdownTimeout]

variable {α : Type}

/-- The member of the setting, if there is one, is of the right kind and in range. -/
def Fits (s : Setting α) (ms : Toml.Members) : Prop :=
  ∀ node ∈ Toml.find? ms s.member, (s.held? node).isSome

instance (s : Setting α) (ms : Toml.Members) : Decidable (s.Fits ms) :=
  inferInstanceAs (Decidable (∀ _ ∈ _, _))

/-- The value in the members of a file. -/
def inMembers (s : Setting α) (ms : Toml.Members) : α :=
  ((Toml.find? ms s.member).bind s.held?).getD s.unset

end Setting

/-- Every member that is a setting is of the right kind and in range. -/
def WellTyped (ms : Toml.Members) : Prop :=
  Setting.host.Fits ms ∧ Setting.port.Fits ms ∧ Setting.dataDir.Fits ms ∧
    Setting.siteIds.Fits ms ∧ Setting.geoDatabase.Fits ms ∧ Setting.rejectUnresolved.Fits ms ∧
    Setting.compactionDelay.Fits ms ∧ Setting.repairLookback.Fits ms ∧
    Setting.shutdownTimeout.Fits ms

instance (ms : Toml.Members) : Decidable (WellTyped ms) :=
  inferInstanceAs (Decidable (_ ∧ _))

/-- The members of a file that is there, is TOML and has every setting well typed. -/
def soundMembers? (file : Option ByteArray) : Option Toml.Members :=
  ((file.bind String.fromUTF8?).bind Toml.parse?).filter fun ms => decide (WellTyped ms)

namespace Environment

variable {env : Environment} {name other : String} {held : Option String}

/-- The environment in which one variable holds a text, or is not set. -/
def set (env : Environment) (name : String) (held : Option String) : Environment :=
  fun other => if other = name then held else env other

theorem set_self : env.set name held name = held :=
  if_pos rfl

theorem set_of_ne (h : other ≠ name) : env.set name held other = env other :=
  if_neg h

end Environment

namespace Setting

variable {α : Type} {file : Option ByteArray} {env : Environment} {name t : String}

/-- The value in a file. -/
def inFile (s : Setting α) (file : Option ByteArray) : α :=
  (soundMembers? file).elim s.unset s.inMembers

/-- The value of a setting: what its variable says, if that is valid, or else what the file says,
if that is, or else its own. -/
def value (s : Setting α) (file : Option ByteArray) (env : Environment) : α :=
  ((s.override.bind env).bind s.written?).getD (s.inFile file)

/-- Any text is valid for a setting that is one. -/
theorem value_text (member override unset : String) :
    (text member override unset).value file env =
      (env override).getD ((text member override unset).inFile file) :=
  congrArg (fun held : Option String => held.getD _) (Option.bind_fun_some _)

/-- A setting does not depend on the variables of others. -/
theorem value_set_of_ne {s : Setting α} {held : Option String} (h : s.override ≠ some name) :
    s.value file (env.set name held) = s.value file env := by
  unfold value
  cases hs : s.override with
  | none => rfl
  | some other =>
      have hother : other ≠ name := fun hname => h (hs.trans (congrArg some hname))
      rw [Option.bind_some, Option.bind_some, Environment.set_of_ne hother]

/-- **A text that is not valid counts as none**, and for other settings as well. -/
theorem value_set_congr {s : Setting α} (h : s.override = some name → s.written? t = none) :
    s.value file (env.set name (some t)) = s.value file (env.set name none) := by
  by_cases hs : s.override = some name
  · unfold value
    rw [hs, Option.bind_some, Option.bind_some, Environment.set_self, Environment.set_self,
      Option.bind_some, h hs, Option.bind_none]
  · rw [value_set_of_ne hs, value_set_of_ne hs]

end Setting

namespace Config

/-! ## The file -/

section File

variable {α : Type} {ms : Toml.Members} {file : Option ByteArray}

theorem memberOr_eq_some_iff (s : Setting α) {a : α} :
    memberOr s.unset s.held? ms s.member = some a ↔ s.Fits ms ∧ a = s.inMembers ms := by
  unfold memberOr Setting.Fits Setting.inMembers
  cases Toml.find? ms s.member with
  | none =>
      simp only [Option.not_mem_none, false_implies, implies_true, true_and, Option.bind_none,
        Option.getD_none, Option.some.injEq]
      exact eq_comm
  | some node =>
      simp only [Option.mem_def, Option.some.injEq, forall_eq', Option.bind_some]
      cases s.held? node with
      | none => simp only [reduceCtorEq, Option.isSome_none, Bool.false_eq_true, false_and]
      | some b =>
          simp only [Option.some.injEq, Option.isSome_some, true_and, Option.getD_some]
          exact eq_comm

/-- The settings in the members of a sound file. -/
def ofSound (ms : Toml.Members) : Config where
  host := Setting.host.inMembers ms
  port := Setting.port.inMembers ms
  dataDir := Setting.dataDir.inMembers ms
  siteIds := Setting.siteIds.inMembers ms
  geoDatabase := Setting.geoDatabase.inMembers ms
  rejectUnresolved := Setting.rejectUnresolved.inMembers ms
  compactionDelay := Setting.compactionDelay.inMembers ms
  repairLookback := Setting.repairLookback.inMembers ms
  shutdownTimeout := Setting.shutdownTimeout.inMembers ms

/-- **Members are read if all of them are well typed.** -/
theorem ofMembers?_eq_some_iff {c : Config} :
    ofMembers? ms = some c ↔ WellTyped ms ∧ c = ofSound ms := by
  simp only [ofMembers?, Option.bind_eq_bind, Option.bind_eq_some_iff, Option.some.injEq]
  constructor
  · rintro ⟨_, hhost, _, hport, _, hdir, _, hsites, _, hgeo, _, hreject, _, hdelay, _, hlookback,
      _, htimeout, rfl⟩
    obtain ⟨host, rfl⟩ := (memberOr_eq_some_iff Setting.host).mp hhost
    obtain ⟨port, rfl⟩ := (memberOr_eq_some_iff Setting.port).mp hport
    obtain ⟨dir, rfl⟩ := (memberOr_eq_some_iff Setting.dataDir).mp hdir
    obtain ⟨sites, rfl⟩ := (memberOr_eq_some_iff Setting.siteIds).mp hsites
    obtain ⟨geo, rfl⟩ := (memberOr_eq_some_iff Setting.geoDatabase).mp hgeo
    obtain ⟨reject, rfl⟩ := (memberOr_eq_some_iff Setting.rejectUnresolved).mp hreject
    obtain ⟨delay, rfl⟩ := (memberOr_eq_some_iff Setting.compactionDelay).mp hdelay
    obtain ⟨lookback, rfl⟩ := (memberOr_eq_some_iff Setting.repairLookback).mp hlookback
    obtain ⟨timeout, rfl⟩ := (memberOr_eq_some_iff Setting.shutdownTimeout).mp htimeout
    exact ⟨⟨host, port, dir, sites, geo, reject, delay, lookback, timeout⟩, rfl⟩
  · rintro ⟨⟨host, port, dir, sites, geo, reject, delay, lookback, timeout⟩, rfl⟩
    exact ⟨_, (memberOr_eq_some_iff Setting.host).mpr ⟨host, rfl⟩,
      _, (memberOr_eq_some_iff Setting.port).mpr ⟨port, rfl⟩,
      _, (memberOr_eq_some_iff Setting.dataDir).mpr ⟨dir, rfl⟩,
      _, (memberOr_eq_some_iff Setting.siteIds).mpr ⟨sites, rfl⟩,
      _, (memberOr_eq_some_iff Setting.geoDatabase).mpr ⟨geo, rfl⟩,
      _, (memberOr_eq_some_iff Setting.rejectUnresolved).mpr ⟨reject, rfl⟩,
      _, (memberOr_eq_some_iff Setting.compactionDelay).mpr ⟨delay, rfl⟩,
      _, (memberOr_eq_some_iff Setting.repairLookback).mpr ⟨lookback, rfl⟩,
      _, (memberOr_eq_some_iff Setting.shutdownTimeout).mpr ⟨timeout, rfl⟩, rfl⟩

/-- **A file that is not sound has no settings**, and one that is has all of its own. -/
theorem ofFile_eq_elim (file : Option ByteArray) :
    ofFile file = (soundMembers? file).elim {} ofSound := by
  unfold ofFile ofToml? soundMembers?
  rw [← Option.bind_assoc]
  cases (file.bind String.fromUTF8?).bind Toml.parse? with
  | none => rfl
  | some ms =>
      rw [Option.bind_some, Option.filter_some]
      by_cases h : WellTyped ms
      · rw [ofMembers?_eq_some_iff.mpr ⟨h, rfl⟩, if_pos (decide_eq_true h)]
        rfl
      · have hnone : ofMembers? ms = none :=
          Option.eq_none_iff_forall_ne_some.mpr fun c hc => h (ofMembers?_eq_some_iff.mp hc).1
        rw [hnone, if_neg fun hsound => h (of_decide_eq_true hsound)]
        rfl

theorem ofFile_eq (file : Option ByteArray) :
    ofFile file =
      { host := Setting.host.inFile file
        port := Setting.port.inFile file
        dataDir := Setting.dataDir.inFile file
        siteIds := Setting.siteIds.inFile file
        geoDatabase := Setting.geoDatabase.inFile file
        rejectUnresolved := Setting.rejectUnresolved.inFile file
        compactionDelay := Setting.compactionDelay.inFile file
        repairLookback := Setting.repairLookback.inFile file
        shutdownTimeout := Setting.shutdownTimeout.inFile file } := by
  rw [ofFile_eq_elim]
  simp only [Setting.inFile]
  cases soundMembers? file with
  | none => rfl
  | some ms => rfl

end File

/-! ## The environment -/

section Variables

variable {file : Option ByteArray} {env : Environment} {text : String}

/-- The switch is on if its text says so, and off if it says so or nothing. -/
theorem saysYes_eq (text : String) : saysYes text = (switch? text).getD false := by
  unfold saysYes switch?
  by_cases hon : text = "1" ∨ text.toLower = "true"
  · rw [if_pos hon, Option.getD_some, Bool.or_eq_true, beq_iff_eq, beq_iff_eq]
    exact hon
  · have hoff : (text == "1" || text.toLower == "true") = false := by
      rw [Bool.eq_false_iff]
      exact fun h => hon (by simpa using h)
    rw [if_neg hon, hoff]
    split <;> rfl

/-- **Every setting is that of its sources**, but the variable of the switch decides with any
text. -/
theorem load_eq (file : Option ByteArray) (env : Environment) :
    load file env =
      { host := Setting.host.value file env
        port := Setting.port.value file env
        dataDir := Setting.dataDir.value file env
        siteIds := Setting.siteIds.value file env
        geoDatabase := Setting.geoDatabase.value file env
        rejectUnresolved := ((env "TIDEMARK_REJECT_UNRESOLVED").map saysYes).getD
          (Setting.rejectUnresolved.inFile file)
        compactionDelay := Setting.compactionDelay.value file env
        repairLookback := Setting.repairLookback.value file env
        shutdownTimeout := Setting.shutdownTimeout.value file env } := by
  have hhost : Setting.host.value file env =
      (env "TIDEMARK_HOST").getD (Setting.host.inFile file) := Setting.value_text _ _ _
  have hdir : Setting.dataDir.value file env =
      (env "TIDEMARK_DATA_DIR").getD (Setting.dataDir.inFile file) := Setting.value_text _ _ _
  have hgeo : Setting.geoDatabase.value file env =
      (env "TIDEMARK_GEOIP_DB").or (Setting.geoDatabase.inFile file) := by
    rw [Setting.value]
    change ((env "TIDEMARK_GEOIP_DB").bind _).getD _ = _
    cases env "TIDEMARK_GEOIP_DB" with
    | none => rfl
    | some path => rfl
  rw [load, ofFile_eq, withEnvironment, hhost, hdir, hgeo]
  rfl

/-- A variable whose text is no number in range counts as one that is not set. -/
theorem load_set_of_mistyped {name : String}
    (number : name ∉ ["TIDEMARK_HOST", "TIDEMARK_DATA_DIR", "TIDEMARK_GEOIP_DB",
      "TIDEMARK_REJECT_UNRESOLVED"])
    (mistyped : ∀ s ∈ Setting.numbers, s.override = some name → s.written? text = none) :
    load file (env.set name (some text)) = load file (env.set name none) := by
  simp only [List.mem_cons, List.not_mem_nil, or_false, not_or] at number
  obtain ⟨hhost, hdir, hgeo, hswitch⟩ := number
  have hother {α : Type} (s : Setting α) {other : String} (hs : s.override = some other)
      (hne : name ≠ other) :
      s.value file (env.set name (some text)) = s.value file (env.set name none) :=
    Setting.value_set_congr fun h => absurd (Option.some.inj (h.symm.trans hs)) hne
  simp only [Setting.numbers, List.mem_cons, List.not_mem_nil, or_false, forall_eq_or_imp,
    forall_eq] at mistyped
  obtain ⟨hport, hdelay, hlookback, htimeout⟩ := mistyped
  rw [load_eq, load_eq, hother Setting.host rfl hhost, hother Setting.dataDir rfl hdir,
    hother Setting.geoDatabase rfl hgeo, Setting.value_set_congr hport,
    Setting.value_set_congr hdelay, Setting.value_set_congr hlookback,
    Setting.value_set_congr htimeout, Environment.set_of_ne (Ne.symm hswitch),
    Environment.set_of_ne (Ne.symm hswitch)]
  rfl

/-- A variable whose text is no value of a switch turns the switch off, and nothing else. -/
theorem load_set_of_no_switch (mistyped : switch? text = none) :
    load file (env.set "TIDEMARK_REJECT_UNRESOLVED" (some text)) =
      { load file (env.set "TIDEMARK_REJECT_UNRESOLVED" none) with
        rejectUnresolved := false } := by
  have hother {α : Type} (s : Setting α)
      (hs : s.override ≠ some "TIDEMARK_REJECT_UNRESOLVED") (held : Option String) :
      s.value file (env.set "TIDEMARK_REJECT_UNRESOLVED" held) = s.value file env :=
    Setting.value_set_of_ne hs
  have hoff : saysYes text = false := by
    rw [saysYes_eq, mistyped, Option.getD_none]
  rw [load_eq, load_eq]
  simp only [hother Setting.host (by decide), hother Setting.port (by decide),
    hother Setting.dataDir (by decide), hother Setting.siteIds (by decide),
    hother Setting.geoDatabase (by decide), hother Setting.compactionDelay (by decide),
    hother Setting.repairLookback (by decide), hother Setting.shutdownTimeout (by decide),
    Environment.set_self, Option.map_some, Option.getD_some, hoff]

/-! ## Settings by the order of their sources -/

/-- Every setting has the value of its sources.  The switch has it where its variable, if set, is
valid, and is off where it is not. -/
structure FromSources (file : Option ByteArray) (env : Environment) (c : Config) : Prop where
  host : c.host = Setting.host.value file env
  port : c.port = Setting.port.value file env
  dataDir : c.dataDir = Setting.dataDir.value file env
  siteIds : c.siteIds = Setting.siteIds.value file env
  geoDatabase : c.geoDatabase = Setting.geoDatabase.value file env
  compactionDelay : c.compactionDelay = Setting.compactionDelay.value file env
  repairLookback : c.repairLookback = Setting.repairLookback.value file env
  shutdownTimeout : c.shutdownTimeout = Setting.shutdownTimeout.value file env
  rejectUnresolved : (∀ text ∈ env "TIDEMARK_REJECT_UNRESOLVED", (switch? text).isSome) →
    c.rejectUnresolved = Setting.rejectUnresolved.value file env
  off : (∃ text ∈ env "TIDEMARK_REJECT_UNRESOLVED", switch? text = none) →
    c.rejectUnresolved = false

theorem fromSources_load (file : Option ByteArray) (env : Environment) :
    FromSources file env (load file env) := by
  rw [load_eq]
  refine ⟨rfl, rfl, rfl, rfl, rfl, rfl, rfl, rfl, fun hvalid => ?_, ?_⟩
  · rw [Setting.value]
    change _ = ((env "TIDEMARK_REJECT_UNRESOLVED").bind switch?).getD _
    cases henv : env "TIDEMARK_REJECT_UNRESOLVED" with
    | none => rfl
    | some text =>
        obtain ⟨on, hon⟩ := Option.isSome_iff_exists.mp (hvalid text henv)
        rw [Option.map_some, Option.bind_some, saysYes_eq, hon]
        rfl
  · rintro ⟨text, henv, hno⟩
    rw [henv, Option.map_some, Option.getD_some, saysYes_eq, hno, Option.getD_none]

/-- **Settings are those of their sources**, for every file and every environment: the variable
comes first, then the file, and last the setting's own value.  A file that is not valid counts as
none, and so does a variable that should be a number and is not valid.  A variable of the switch
that is not valid turns the switch off and leaves every other setting as it is without it. -/
theorem settings_from_sources (file : Option ByteArray) (env : Environment) :
    FromSources file env (load file env) ∧
    (soundMembers? file = none → load file env = load none env) ∧
    (∀ name text, name ∉ ["TIDEMARK_HOST", "TIDEMARK_DATA_DIR", "TIDEMARK_GEOIP_DB",
        "TIDEMARK_REJECT_UNRESOLVED"] →
      (∀ s ∈ Setting.numbers, s.override = some name → s.written? text = none) →
      load file (env.set name (some text)) = load file (env.set name none)) ∧
    ∀ text, switch? text = none →
      load file (env.set "TIDEMARK_REJECT_UNRESOLVED" (some text)) =
        { load file (env.set "TIDEMARK_REJECT_UNRESOLVED" none) with
          rejectUnresolved := false } := by
  refine ⟨fromSources_load file env, fun hfile => ?_, fun _ _ => load_set_of_mistyped,
    fun _ => load_set_of_no_switch⟩
  rw [load, load, ofFile_eq_elim, hfile]
  rfl

/-- A text that is no value of a switch turns off a switch that the file turns on. -/
theorem switch_off_by_mistyped_variable :
    let file := some "reject_unresolved = true".toUTF8
    let env : Environment := fun name =>
      if name = "TIDEMARK_REJECT_UNRESOLVED" then some "yes" else none
    switch? "yes" = none ∧ Setting.rejectUnresolved.value file env = true ∧
      (load file env).rejectUnresolved = false := by
  decide +kernel

end Variables

end Config

end Footfall
