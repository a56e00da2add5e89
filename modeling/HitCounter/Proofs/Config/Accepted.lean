import HitCounter.Proofs.Config.Reading

/-!
# Which environments are accepted

- **Well-formed variables** (`NumericVariable.Spelled`, `NumericVariable.WellFormed`): a numeric
  variable that is set has the text of a number that fits, and white space around it is free. These
  are the variables that are read (`Config.exists_readNumber_iff`).
- **Faults** (`Config.foldlM_readNumber_error`): of variables that are read one after the other, the
  first that is not well-formed is reported.
- **Written configurations** (`Config.toEnvironment`, `Config.Fits`): a configuration is read back
  from the environment that it is written to, whatever else is set there.

`Config.ofEnvironment_decided` states them together.
-/

namespace HitCounter

/-! ## Well-formed variables -/

namespace NumericVariable

variable {env : Environment} {v : NumericVariable} {n : Nat}

/-- The number that a numeric variable spells: its default if it has no text, and otherwise the one
that its text, apart from white space, is a text of, if that number fits. -/
inductive Spelled (env : Environment) (v : NumericVariable) : Nat → Prop where
  | unset (missing : env.get? v.name = none) : Spelled env v (v.get {})
  | number {value : String} {n : Nat} (given : env.get? v.name = some value)
    (text : Numeric.NaturalText n (Text.trim value.toList)) (fits : n < Nat.pow 2 v.bits) :
    Spelled env v n

/-- The variable has no text, or the text of a number that fits. -/
def WellFormed (env : Environment) (v : NumericVariable) : Prop := ∃ n, Spelled env v n

theorem le_pred_iff_fits : n ≤ Nat.pow 2 v.bits - 1 ↔ n < Nat.pow 2 v.bits := by
  have hpos : 0 < Nat.pow 2 v.bits := Nat.two_pow_pos _
  omega

/-- A variable gives the number that it spells. -/
theorem gives_iff_spelled : v.Gives env n ↔ v.Spelled env n := by
  constructor
  · rintro (missing | ⟨given, reads⟩)
    · exact .unset missing
    · obtain ⟨text, hle⟩ := Numeric.readNat_eq_ok_iff.mp reads
      exact .number given text (le_pred_iff_fits.mp hle)
  · rintro (missing | ⟨given, text, fits⟩)
    · exact .unset missing
    · exact .number given (Numeric.readNat_eq_ok_iff.mpr ⟨text, le_pred_iff_fits.mpr fits⟩)

end NumericVariable

namespace Config

variable {env : Environment} {c : Config} {v : NumericVariable} {e : ConfigFault}

/-- A variable that is not read is reported with its value, which is not well-formed. -/
theorem readNumber_error (h : readNumber env c v = .error e) :
    e.setting = v ∧ env.get? v.name = some e.value ∧ ¬ v.WellFormed env := by
  unfold readNumber at h
  split at h
  · cases h
  · rename_i value given
    split at h
    · cases h
    · rename_i fault reads
      cases h
      refine ⟨rfl, given, ?_⟩
      rintro ⟨n, hspelled⟩
      cases NumericVariable.gives_iff_spelled.mpr hspelled with
      | unset missing => simp [given] at missing
      | number given' reads' =>
        obtain rfl : value = _ := Option.some.inj (given.symm.trans given')
        rw [reads] at reads'
        cases reads'

/-- The variables that are read are the well-formed ones, whatever was read before. -/
theorem exists_readNumber_iff : (∃ c', readNumber env c v = .ok c') ↔ v.WellFormed env := by
  constructor
  · rintro ⟨c', hread⟩
    obtain ⟨n, hgives, -⟩ := readNumber_eq_ok_iff.mp hread
    cases hgives with
    | unset missing => exact ⟨_, .unset missing⟩
    | number given reads => exact ⟨n, NumericVariable.gives_iff_spelled.mp (.number given reads)⟩
  · intro hwell
    cases hread : readNumber env c v with
    | ok c' => exact ⟨c', rfl⟩
    | error e => exact absurd hwell (readNumber_error hread).2.2

/-! ## Faults -/

/-- A fault is about the first of some variables that is not well-formed. -/
theorem foldlM_readNumber_error {vs : List NumericVariable}
    (h : vs.foldlM (readNumber env) c = .error e) :
    ∃ before after, vs = before ++ e.setting :: after ∧ (∀ v ∈ before, v.WellFormed env) ∧
      env.get? e.setting.name = some e.value ∧ ¬ e.setting.WellFormed env := by
  induction vs generalizing c with
  | nil => cases h
  | cons v vs ih =>
    rw [List.foldlM_cons] at h
    cases hread : readNumber env c v with
    | error e' =>
      rw [hread] at h
      cases h
      obtain ⟨rfl, hvalue, hwell⟩ := readNumber_error hread
      exact ⟨[], vs, rfl, by simp, hvalue, hwell⟩
    | ok c' =>
      rw [hread] at h
      -- What was read does not change which variables are read later.
      obtain ⟨before, after, rfl, hbefore, hlast⟩ := ih h
      have hv : v.WellFormed env := exists_readNumber_iff.mp ⟨c', hread⟩
      exact ⟨v :: before, after, rfl, List.forall_mem_cons.mpr ⟨hv, hbefore⟩, hlast⟩

/-- An environment is accepted exactly if all its numeric variables are well-formed. -/
theorem exists_ofEnvironment_iff :
    (∃ c, ofEnvironment env = .ok c) ↔ ∀ v : NumericVariable, v.WellFormed env := by
  constructor
  · rintro ⟨c, hread⟩ v
    exact ⟨v.get c, NumericVariable.gives_iff_spelled.mp ((ofEnvironment_eq_ok_iff.mp hread).2 v)⟩
  · intro hwell
    cases hread : ofEnvironment env with
    | ok c => exact ⟨c, rfl⟩
    | error e =>
      obtain ⟨-, -, -, -, -, hfirst⟩ := foldlM_readNumber_error hread
      exact absurd (hwell e.setting) hfirst

end Config

/-! ## Written configurations -/

namespace Environment

variable {env later : Environment} {name : String}

/-- A variable that is set again has its later text. -/
theorem get?_append_of_mem (h : name ∈ later.map Prod.fst) :
    get? (env ++ later) name = get? later name := by
  have hlookup : later.reverse.lookup name ≠ none := by
    rw [Ne, List.lookup_eq_none_iff]
    intro hnone
    obtain ⟨entry, hentry, rfl⟩ := List.mem_map.mp h
    simpa using hnone entry (List.mem_reverse.mpr hentry)
  rw [get?, get?, List.reverse_append, List.lookup_append, Option.or_of_isSome]
  exact Option.isSome_iff_ne_none.mpr hlookup

/-- A variable that is not set again keeps its text. -/
theorem get?_append_of_not_mem (h : name ∉ later.map Prod.fst) :
    get? (env ++ later) name = get? env name := by
  have hlookup : later.reverse.lookup name = none := by
    rw [List.lookup_eq_none_iff]
    intro entry hentry
    have hne : name ≠ entry.1 := fun heq =>
      h (heq ▸ List.mem_map_of_mem (List.mem_reverse.mp hentry))
    simpa using hne
  rw [get?, get?, List.reverse_append, List.lookup_append, hlookup, Option.none_or]

end Environment

namespace Config

/-- The environment that a configuration is written to. -/
def toEnvironment (c : Config) : Environment :=
  [("DATABASE_URL", Text.encode c.databaseUrl.toList),
    ("BEACON_HOST", Text.encode c.host.toList)] ++
    c.cityDatabase.toList.map (fun path => ("GEOIP_CITY_DB_PATH", Text.encode path.toList)) ++
    .ofNumbers fun v => v.get c

/-- The numbers have at most as many bits as their variables allow, and the path is not blank. -/
structure Fits (c : Config) : Prop where
  numbers : ∀ v : NumericVariable, v.get c < Nat.pow 2 v.bits
  path : ∀ path ∈ c.cityDatabase, Text.trim path.toList ≠ []

variable {env : Environment} {c : Config}

theorem get?_toEnvironment_number (v : NumericVariable) :
    Environment.get? (env ++ c.toEnvironment) v.name =
      some (String.ofList (Nat.toDigits 10 (v.get c))) := by
  have hnumber : v.name ∈ (Environment.ofNumbers fun v => v.get c).map Prod.fst := by
    rw [Environment.ofNumbers, List.map_map]
    exact List.mem_map_of_mem v.mem_all
  rw [toEnvironment, ← List.append_assoc, Environment.get?_append_of_mem hnumber,
    Environment.get?_ofNumbers]

/-- A text is not among the numbers. -/
theorem get?_toEnvironment_text (env : Environment) (c : Config) {name : String}
    (hname : name ∉ NumericVariable.all.map (·.name)) :
    Environment.get? (env ++ c.toEnvironment) name =
      Environment.get? (env ++ ([("DATABASE_URL", Text.encode c.databaseUrl.toList),
        ("BEACON_HOST", Text.encode c.host.toList)] ++
        c.cityDatabase.toList.map
          fun path => ("GEOIP_CITY_DB_PATH", Text.encode path.toList))) name := by
  rw [toEnvironment, ← List.append_assoc, Environment.get?_append_of_not_mem]
  rwa [Environment.ofNumbers, List.map_map]

/-- The texts of a configuration are read as they were written. -/
theorem texts_toEnvironment (hfits : c.Fits)
    (hpath : c.cityDatabase = none → env.get? "GEOIP_CITY_DB_PATH" = none) :
    (readTexts (env ++ c.toEnvironment) {}).texts = c.texts := by
  have hurl := get?_toEnvironment_text env c (show "DATABASE_URL" ∉ _ by decide)
  have hhost := get?_toEnvironment_text env c (show "BEACON_HOST" ∉ _ by decide)
  have hcity := get?_toEnvironment_text env c (show "GEOIP_CITY_DB_PATH" ∉ _ by decide)
  simp only [texts, readTexts, hurl, hhost, hcity]
  cases hc : c.cityDatabase with
  | none =>
    have hunset := hpath hc
    simp only [Environment.get?] at hunset
    simp [Environment.get?, List.lookup_cons, Text.decode?_encode, hunset]
  | some path =>
    have hblank : Text.trim path.toList ≠ [] := hfits.path path hc
    simp [Environment.get?, List.lookup_cons, Text.decode?_encode, hblank]

/-- **Written configurations** are read back as they were, whatever else is set. -/
theorem ofEnvironment_toEnvironment (hfits : c.Fits)
    (hpath : c.cityDatabase = none → env.get? "GEOIP_CITY_DB_PATH" = none) :
    ofEnvironment (env ++ c.toEnvironment) = .ok c := by
  refine ofEnvironment_eq_ok_iff.mpr ⟨(texts_toEnvironment hfits hpath).symm, fun v => ?_⟩
  refine NumericVariable.gives_iff_spelled.mpr (.number (get?_toEnvironment_number v) ?_ ?_)
  · rw [String.toList_ofList, Text.trim_toDigits]
    exact .plain ⟨0, rfl⟩
  · exact hfits.numbers v

/-- **Which environments are accepted.** The numeric variables have these names and take as many
bits, in the order of reading. An environment is accepted exactly if each numeric variable
has no text, or the text of a number that fits; then the configuration holds these numbers, or the
defaults. Otherwise the fault is about the first variable, in the order of reading, that has another
text, and its message starts with the name of that variable. A configuration is read back from the
environment that it is written to, whatever else is set there. -/
theorem ofEnvironment_decided (env : Environment) :
    NumericVariable.all.map (fun v => (v.name, v.bits)) =
      [("DATABASE_MAX_CONNECTIONS", 32), ("BEACON_PORT", 16), ("MEMSTORE_BUFFER_SIZE", 64),
        ("MEMSTORE_FLUSH_INTERVAL_MS", 64), ("MEMSTORE_PERSIST_INTERVAL_SECS", 64),
        ("SITE_CACHE_MAX_ENTRIES", 64), ("SITE_CACHE_TTL_SECS", 64)] ∧
    ((∃ c, ofEnvironment env = .ok c) ↔ ∀ v : NumericVariable, v.WellFormed env) ∧
    (∀ c, ofEnvironment env = .ok c → ∀ v : NumericVariable, v.Spelled env (v.get c)) ∧
    (∀ e, ofEnvironment env = .error e →
      (∃ before after, NumericVariable.all = before ++ e.setting :: after ∧
        (∀ v ∈ before, v.WellFormed env) ∧ env.get? e.setting.name = some e.value ∧
        ¬ e.setting.WellFormed env) ∧
      e.setting.name.toList <+: e.message.toList) ∧
    (∀ c : Config, c.Fits → (c.cityDatabase = none → env.get? "GEOIP_CITY_DB_PATH" = none) →
      ofEnvironment (env ++ c.toEnvironment) = .ok c) := by
  refine ⟨rfl, exists_ofEnvironment_iff, fun c hread v => ?_, fun e hread => ⟨?_, ?_⟩,
    fun c hfits hpath => ofEnvironment_toEnvironment hfits hpath⟩
  · exact NumericVariable.gives_iff_spelled.mp ((ofEnvironment_eq_ok_iff.mp hread).2 v)
  · exact foldlM_readNumber_error hread
  · simp only [ConfigFault.message, String.toList_append, List.append_assoc]
    exact List.prefix_append _ _

/-- The greatest port with a sign and zeros, a negative lifetime, and one more connection than
fits. -/
def greatestPort : Environment :=
  [("BEACON_PORT", Text.encode " +0065535\t".toList),
    ("SITE_CACHE_TTL_SECS", Text.encode "-1".toList),
    ("DATABASE_MAX_CONNECTIONS", Text.encode "4294967296".toList)]

/-- The number of connections comes first and is reported, and without it the lifetime. Without both
the port is accepted, and so is a configuration that is written over these variables. -/
theorem ofEnvironment_decided_greatestPort :
    (ofEnvironment (greatestPort.take 1) = .ok { port := 65535 } ∧
      NumericVariable.port.Spelled (greatestPort.take 1) 65535) ∧
    (ofEnvironment (greatestPort.take 2) = .error ⟨.cacheLifetime, "-1", .invalidDigit⟩ ∧
      ¬ NumericVariable.cacheLifetime.WellFormed (greatestPort.take 2)) ∧
    (ofEnvironment greatestPort = .error ⟨.maxConnections, "4294967296", .tooLarge⟩ ∧
      ¬ NumericVariable.maxConnections.WellFormed greatestPort) ∧
    Fits { cityDatabase := some "city.mmdb" } ∧
    ofEnvironment (greatestPort ++ toEnvironment { cityDatabase := some "city.mmdb" }) =
      .ok { cityDatabase := some "city.mmdb" } := by
  have haccepted : ofEnvironment (greatestPort.take 1) = .ok { port := 65535 } := by decide +kernel
  have hnegative : ofEnvironment (greatestPort.take 2) =
      .error ⟨.cacheLifetime, "-1", .invalidDigit⟩ := by decide +kernel
  have hrejected : ofEnvironment greatestPort =
      .error ⟨.maxConnections, "4294967296", .tooLarge⟩ := by decide +kernel
  have hfits : Fits { cityDatabase := some "city.mmdb" } :=
    ⟨fun v => by cases v <;> decide, by decide +kernel⟩
  obtain ⟨-, -, hspelled, -, -⟩ := ofEnvironment_decided (greatestPort.take 1)
  obtain ⟨-, -, -, hsecond, -⟩ := ofEnvironment_decided (greatestPort.take 2)
  obtain ⟨-, -, -, hfault, hwritten⟩ := ofEnvironment_decided greatestPort
  obtain ⟨⟨-, -, -, -, -, hlifetime⟩, -⟩ := hsecond _ hnegative
  obtain ⟨⟨-, -, -, -, -, hfirst⟩, -⟩ := hfault _ hrejected
  exact ⟨⟨haccepted, hspelled _ haccepted .port⟩, ⟨hnegative, hlifetime⟩, ⟨hrejected, hfirst⟩,
    hfits, hwritten _ hfits (by simp)⟩

end Config

end HitCounter
