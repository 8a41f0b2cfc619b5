import SimLLM.TableTotals
import SimLLM.GraphValidation

namespace SimLLM

open List

inductive JsonValue where
  | null
  | bool (value : Bool)
  | int (value : Int)
  | float (value : PyFloat)
  | str (value : String)
  | arr (entries : List JsonValue)
  | obj (fields : List (String × JsonValue))

/-- The bits of `float(n)` below the sign: 53 significant bits, ties to even.
A carry out of the significand moves to the exponent. -/
def PyFloat.magnitude (n : Nat) : Nat :=
  if n = 0 then 0 else
    let exponent := n.log2
    let significand :=
      if exponent ≤ 52 then n * 2 ^ (52 - exponent) else
        let unit := 2 ^ (exponent - 52)
        let quotient := n / unit
        if 2 * (n % unit) > unit ∨ (2 * (n % unit) = unit ∧ quotient % 2 = 1) then quotient + 1
        else quotient
    (exponent + 1023) * 2 ^ 52 + (significand - 2 ^ 52)

def PyFloat.ofInt (value : Int) : Option PyFloat :=
  let magnitude := PyFloat.magnitude value.natAbs
  if magnitude < 2047 * 2 ^ 52 then
    some ⟨BitVec.ofNat 64 (magnitude + if value < 0 then 2 ^ 63 else 0)⟩
  else none

example : PyFloat.ofInt 3 = some ⟨0x4008000000000000#64⟩ := by decide +kernel

example : PyFloat.ofInt (2 ^ 53 + 1) = PyFloat.ofInt (2 ^ 53) := by decide +kernel

namespace Wire

def object (value : JsonValue) (path : String) : Except PyError (Dict JsonValue) :=
  match value with
  | .obj fields => .ok fields
  | _ => .error (fail path "expected an object")

def fields (value : Dict JsonValue) (path : String) (required : List String)
    (optional : List String := []) : Except PyError Unit := do
  let keys := value.map Prod.fst
  let missing := sortedSet (required.filter (!keys.contains ·))
  require missing.isEmpty (fail path "missing fields {}" missing)
  let unknown := sortedSet
    (keys.filter fun key => !required.contains key && !optional.contains key)
  require unknown.isEmpty (fail path "unknown fields {}" unknown)

def item (value : Dict JsonValue) (name : String) : Except PyError JsonValue :=
  match value.get? name with
  | some entry => .ok entry
  | none => .error (keyError "{}" [name])

def get (value : Dict JsonValue) (name : String) (default : JsonValue := .null) : JsonValue :=
  (value.get? name).getD default

def field {α : Type} (decode : JsonValue → String → Except PyError α) (value : Dict JsonValue)
    (path name : String) : Except PyError α := do
  let entry ← item value name
  decode entry (path ++ "." ++ name)

def fieldD {α : Type} (decode : JsonValue → String → Except PyError α) (value : Dict JsonValue)
    (path name : String) (default : JsonValue := .null) : Except PyError α :=
  decode (get value name default) (path ++ "." ++ name)

def array (value : JsonValue) (path : String) : Except PyError (List JsonValue) :=
  match value with
  | .arr entries => .ok entries
  | _ => .error (fail path "expected an array")

def string (value : JsonValue) (path : String) : Except PyError String :=
  match value with
  | .str value => do
    require (nonblank value) (fail path "must not be blank")
    .ok value
  | _ => .error (fail path "expected a string")

def integer (value : JsonValue) (path : String) : Except PyError Int :=
  match value with
  | .int value => .ok value
  | _ => .error (fail path "expected an integer")

def natural (value : JsonValue) (path : String) : Except PyError Nat := do
  let value ← integer value path
  require (0 ≤ value) (fail path "must be nonnegative")
  .ok value.toNat

def naturalFrom (minimum : Nat) (value : JsonValue) (path : String) : Except PyError Nat := do
  let value ← integer value path
  require ((minimum : Int) ≤ value) (fail path "must be at least {}" [toString minimum])
  .ok value.toNat

def number (value : JsonValue) (path : String) : Except PyError PyFloat := do
  let result ← match value with
    | .int value => (PyFloat.ofInt value).elim (.error (fail path "must be finite")) .ok
    | .float value => .ok value
    | _ => .error (fail path "expected a finite number")
  require result.isFinite (fail path "must be finite")
  require (!result.isNegative) (fail path "must be nonnegative")
  .ok result

def optional {α : Type} (decode : JsonValue → String → Except PyError α) (value : JsonValue)
    (path : String) : Except PyError (Option α) :=
  match value with
  | .null => .ok none
  | value => some <$> decode value path

def scalar (value : JsonValue) (path : String) : Except PyError ConfigScalar :=
  match value with
  | .bool value => .ok (.bool value)
  | .int value => .ok (.int value)
  | .str value => .ok (.str value)
  | .float value => do
    require value.isFinite (fail path "expected a finite JSON scalar")
    .ok (.float value)
  | _ => .error (fail path "expected a finite JSON scalar")

def tuple {α : Type} (decode : JsonValue → String → Except PyError α) (value : JsonValue)
    (path : String) : Except PyError (List α) := do
  let entries ← array value path
  entries.zipIdx.mapM fun entry => decode entry.1 (indexPath path entry.2)

end Wire

/-- An `enum.Enum` with string values: its members in order, and their names on the wire. -/
class WireEnum (α : Type) where
  members : List α
  value : α → String
  complete : ∀ a, a ∈ members
  distinct : (members.map value).Nodup
  named : ∀ a, nonblank (value a) = true

namespace Wire

variable {α : Type}
variable {value : JsonValue} {path : String} {decode : JsonValue → String → Except PyError α}

def enumValue [WireEnum α] (value : JsonValue) (path : String) : Except PyError α := do
  let raw ← string value path
  match WireEnum.members.find? (fun member : α => WireEnum.value member == raw) with
  | some member => .ok member
  | none => .error (fail path "unknown value {}; expected one of {}"
      (raw :: (@WireEnum.members α _).map WireEnum.value))

def naturalToJson (n : Nat) : JsonValue := .int n

theorem object_eq_ok {fields : Dict JsonValue} :
    object value path = .ok fields ↔ value = .obj fields := by
  cases value <;> simp [object]

theorem array_eq_ok {entries : List JsonValue} :
    array value path = .ok entries ↔ value = .arr entries := by
  cases value <;> simp [array]

variable {text : String}

theorem string_eq_ok : string value path = .ok text ↔ value = .str text ∧ nonblank text = true := by
  cases value with
  | str value =>
    simp only [string, bind_eq_ok, require_eq_ok, JsonValue.str.injEq, Except.ok.injEq]
    constructor
    · rintro ⟨_, hvalue, rfl⟩
      exact ⟨rfl, hvalue⟩
    · rintro ⟨rfl, hvalue⟩
      exact ⟨(), hvalue, rfl⟩
  | _ => simp [string]

theorem integer_eq_ok {n : Int} : integer value path = .ok n ↔ value = .int n := by
  cases value <;> simp [integer]

theorem natural_eq_ok {n : Nat} : natural value path = .ok n ↔ value = naturalToJson n := by
  simp only [natural, naturalToJson, bind_eq_ok, integer_eq_ok, require_eq_ok, Except.ok.injEq,
    decide_eq_true_eq]
  constructor
  · rintro ⟨i, rfl, _, hi, rfl⟩
    rw [Int.toNat_of_nonneg hi]
  · rintro rfl
    exact ⟨n, rfl, (), Int.natCast_nonneg n, Int.toNat_natCast n⟩

theorem naturalFrom_eq_ok {minimum : Nat} {n : Nat} :
    naturalFrom minimum value path = .ok n ↔ value = naturalToJson n ∧ minimum ≤ n := by
  simp only [naturalFrom, naturalToJson, bind_eq_ok, integer_eq_ok, require_eq_ok, Except.ok.injEq,
    decide_eq_true_eq]
  constructor
  · rintro ⟨i, rfl, _, hi, rfl⟩
    have hnonneg : 0 ≤ i := by omega
    rw [Int.toNat_of_nonneg hnonneg]
    exact ⟨rfl, by omega⟩
  · rintro ⟨rfl, hn⟩
    exact ⟨n, rfl, (), by omega, Int.toNat_natCast n⟩

theorem number_float {x : PyFloat} (hfinite : x.isFinite = true)
    (hsign : x.isNegative = false) : number (.float x) path = .ok x := by
  simp [number, require, hfinite, hsign]

theorem enumValue_eq_ok [WireEnum α] {a : α} :
    enumValue value path = .ok a ↔ value = .str (WireEnum.value a) := by
  simp only [enumValue, bind_eq_ok, string_eq_ok]
  constructor
  · rintro ⟨raw, ⟨rfl, _⟩, h⟩
    split at h
    next member hmember =>
      obtain rfl := Except.ok.inj h
      rw [(of_find?_key hmember).2]
    next => cases h
  · rintro rfl
    refine ⟨_, ⟨rfl, WireEnum.named a⟩, ?_⟩
    rw [find?_key WireEnum.distinct (WireEnum.complete a)]

def optionToJson (encode : α → JsonValue) : Option α → JsonValue
  | none => .null
  | some a => encode a

def scalarToJson : ConfigScalar → JsonValue
  | .str value => .str value
  | .int value => .int value
  | .float value => .float value
  | .bool value => .bool value

def OptionalForm (R : JsonValue → α → Prop) (value : JsonValue) : Option α → Prop
  | none => value = .null
  | some a => R value a

variable {a : Option α}

theorem optional_eq_ok_form (R : JsonValue → α → Prop) (valid : α → Prop)
    (h : ∀ value a, decode value path = .ok a ↔ R value a ∧ valid a) (hnull : ∀ a, ¬ R .null a) :
    optional decode value path = .ok a ↔
      OptionalForm R value a ∧ ∀ x, a = some x → valid x := by
  by_cases hvalue : value = .null
  · subst hvalue
    cases a with
    | none => simp [optional, OptionalForm]
    | some x => simp [optional, OptionalForm, hnull x]
  · have hmap : optional decode value path = some <$> decode value path := by
      cases value with
      | null => exact absurd rfl hvalue
      | _ => rfl
    rw [hmap, map_eq_ok]
    cases a with
    | none => simp [OptionalForm, hvalue]
    | some x => simp [OptionalForm, h]

theorem optional_eq_ok (encode : α → JsonValue) (valid : α → Prop)
    (h : ∀ value a, decode value path = .ok a ↔ value = encode a ∧ valid a)
    (hnull : ∀ a, encode a ≠ .null) : optional decode value path = .ok a ↔
      value = optionToJson encode a ∧ ∀ x, a = some x → valid x := by
  rw [optional_eq_ok_form (fun value a => value = encode a) valid h fun a heq => hnull a heq.symm]
  cases a <;> rfl

variable {a : Option String}

theorem optionalString_eq_ok : optional string value path = .ok a ↔
      value = optionToJson .str a ∧ ∀ x, a = some x → nonblank x = true :=
  optional_eq_ok .str (fun text => nonblank text = true) (fun _ _ => string_eq_ok) (by simp)

theorem optionalNatural_eq_ok {a : Option Nat} :
    optional natural value path = .ok a ↔ value = optionToJson naturalToJson a := by
  have hdecode : ∀ value n, natural value path = .ok n ↔ value = naturalToJson n ∧ True := by
    intro value n
    rw [natural_eq_ok, and_true]
  rw [optional_eq_ok naturalToJson (fun _ => True) hdecode (by simp [naturalToJson])]
  simp

theorem scalar_eq_ok {a : ConfigScalar} : scalar value path = .ok a ↔
      value = scalarToJson a ∧ ∀ x, a = .float x → x.isFinite = true := by
  cases value with
  | float value =>
    cases a <;> simp [scalar, scalarToJson, bind_eq_ok]
    constructor
    · rintro ⟨hfinite, rfl⟩
      exact ⟨rfl, hfinite⟩
    · rintro ⟨rfl, hfinite⟩
      exact ⟨hfinite, rfl⟩
  | _ => cases a <;> simp [scalar, scalarToJson]

def scalarPair (value : JsonValue) (path : String) : Except PyError (String × ConfigScalar) := do
  match ← array value path with
  | [name, entry] => do
    let name ← string name (indexPath path 0)
    let entry ← scalar entry (indexPath path 1)
    .ok (name, entry)
  | _ => .error (fail path "expected a two-item array")

def ScalarPairText (entry : String × ConfigScalar) : Prop :=
  nonblank entry.1 = true ∧ ∀ x, entry.2 = .float x → x.isFinite = true

theorem scalarPair_eq_ok {entry : String × ConfigScalar} : scalarPair value path = .ok entry ↔
      value = .arr [.str entry.1, scalarToJson entry.2] ∧ ScalarPairText entry := by
  simp only [scalarPair, bind_eq_ok, array_eq_ok]
  constructor
  · rintro ⟨entries, rfl, h⟩
    split at h
    next name scalarValue =>
      simp only [bind_eq_ok, string_eq_ok, scalar_eq_ok, Except.ok.injEq] at h
      obtain ⟨_, ⟨rfl, hname⟩, _, ⟨rfl, hscalar⟩, rfl⟩ := h
      exact ⟨rfl, hname, hscalar⟩
    next => cases h
  · rintro ⟨rfl, hname, hscalar⟩
    refine ⟨_, rfl, ?_⟩
    simp only [bind_eq_ok, string_eq_ok, scalar_eq_ok, Except.ok.injEq]
    exact ⟨_, ⟨rfl, hname⟩, _, ⟨rfl, hscalar⟩, rfl⟩

variable {values : List α}

theorem tuple_eq_ok (R : JsonValue → α → Prop) (valid : α → Prop)
    (h : ∀ value path a, decode value path = .ok a ↔ R value a ∧ valid a) :
    tuple decode value path = .ok values ↔
      ∃ entries, value = .arr entries ∧ List.Forall₂ R entries values ∧ ∀ a ∈ values, valid a := by
  have hentries : ∀ (entries : List JsonValue) (start : Nat) (values : List α),
      (entries.zipIdx start).mapM (fun entry => decode entry.1 (indexPath path entry.2)) =
          .ok values ↔ List.Forall₂ R entries values ∧ ∀ a ∈ values, valid a := by
    intro entries
    induction entries with
    | nil =>
      intro start values
      cases values <;> simp
    | cons entry rest ih =>
      intro start values
      rw [zipIdx_cons, mapM_eq_ok]
      cases values with
      | nil => simp
      | cons a values =>
        rw [forall₂_cons, forall₂_cons, h, ← mapM_eq_ok, ih (start + 1) values]
        simp only [forall_mem_cons]
        exact and_and_and_comm
  simp only [tuple, bind_eq_ok, array_eq_ok]
  constructor
  · rintro ⟨entries, rfl, hvalues⟩
    exact ⟨entries, rfl, (hentries entries 0 values).mp hvalues⟩
  · rintro ⟨entries, rfl, hvalues⟩
    exact ⟨entries, rfl, (hentries entries 0 values).mpr hvalues⟩

theorem tuple_eq_ok_map (encode : α → JsonValue) (valid : α → Prop)
    (h : ∀ value path a, decode value path = .ok a ↔ value = encode a ∧ valid a) :
    tuple decode value path = .ok values ↔
      value = .arr (values.map encode) ∧ ∀ a ∈ values, valid a := by
  rw [tuple_eq_ok (fun value a => value = encode a) valid h]
  have hmap : ∀ entries, List.Forall₂ (fun value a => value = encode a) entries values ↔
      entries = values.map encode := by
    intro entries
    rw [← forall₂_eq_eq_eq, forall₂_map_right_iff]
  constructor
  · rintro ⟨entries, rfl, hentries, hvalid⟩
    rw [(hmap entries).mp hentries]
    exact ⟨rfl, hvalid⟩
  · rintro ⟨rfl, hvalid⟩
    exact ⟨_, rfl, (hmap _).mpr rfl, hvalid⟩

theorem tuple_map {encode : α → JsonValue} (hvalue : value = .arr (values.map encode))
    (h : ∀ i a, values[i]? = some a → decode (encode a) (indexPath path i) = .ok a) :
    tuple decode value path = .ok values := by
  subst hvalue
  have hentries : (values.map encode).zipIdx.mapM
      (fun entry => decode entry.1 (indexPath path entry.2)) = .ok values := by
    rw [mapM_eq_ok, zipIdx_map, forall₂_map_left_iff, forall₂_iff_get]
    refine ⟨length_zipIdx, fun i hi hi' => ?_⟩
    have hplace := getElem?_eq_getElem hi'
    simpa using h i _ hplace
  exact bind_eq_ok.mpr ⟨_, rfl, hentries⟩

theorem stringTuple_eq_ok {values : List String} : tuple string value path = .ok values ↔
      value = .arr (values.map .str) ∧ ∀ text ∈ values, nonblank text = true :=
  tuple_eq_ok_map .str (fun text => nonblank text = true) fun _ _ _ => string_eq_ok

theorem intTuple_eq_ok {values : List Nat} :
    tuple natural value path = .ok values ↔ value = .arr (values.map naturalToJson) := by
  have hdecode : ∀ value path n, natural value path = .ok n ↔ value = naturalToJson n ∧ True := by
    intro value path n
    rw [natural_eq_ok, and_true]
  rw [tuple_eq_ok_map naturalToJson (fun _ => True) hdecode]
  simp

theorem sortedSet_isEmpty {β : Type} [LinearOrder β] {values : List β} :
    (sortedSet values).isEmpty = true ↔ ∀ x, x ∉ values := by
  rw [List.isEmpty_iff, List.eq_nil_iff_forall_not_mem]
  simp

variable {value : Dict JsonValue}

theorem fields_eq_ok {required optional : List String}
    {u : Unit} : fields value path required optional = .ok u ↔
      (∀ name ∈ required, name ∈ value.keys) ∧
        ∀ key ∈ value.keys, key ∈ required ∨ key ∈ optional := by
  have hmissing : (∀ name, name ∉ required.filter (!(value.map Prod.fst).contains ·)) ↔
      ∀ name ∈ required, name ∈ value.keys := by
    simp [Table.keys]
  have hunknown : (∀ key, key ∉ (value.map Prod.fst).filter
      fun key => !required.contains key && !optional.contains key) ↔
      ∀ key ∈ value.keys, key ∈ required ∨ key ∈ optional := by
    simp only [mem_filter, Table.keys, Bool.and_eq_true, Bool.not_eq_true',
      ← Bool.not_eq_true, contains_iff_mem]
    grind
  simp only [fields, bind_eq_ok, require_eq_ok, sortedSet_isEmpty, hmissing, hunknown]
  exact ⟨fun ⟨_, h⟩ => h, fun h => ⟨(), h⟩⟩

def HasFields (value : Dict JsonValue) (names : List String) : Prop :=
  (∀ name ∈ names, name ∈ value.keys) ∧ ∀ key ∈ value.keys, key ∈ names

theorem fields_eq_ok_hasFields {required : List String}
    {u : Unit} : fields value path required = .ok u ↔ HasFields value required := by
  rw [fields_eq_ok]
  simp [HasFields]

theorem item_eq_ok {name : String} {entry : JsonValue} :
    item value name = .ok entry ↔ value.get? name = some entry := by
  unfold item
  cases value.get? name <;> simp

variable {name : String}

theorem field_eq_ok {a : α} : field decode value path name = .ok a ↔
      ∃ entry, value.get? name = some entry ∧ decode entry (path ++ "." ++ name) = .ok a := by
  simp only [field, bind_eq_ok, item_eq_ok]

theorem field_eq_ok_form (R : JsonValue → α → Prop)
    (valid : α → Prop) (h : ∀ value path a, decode value path = .ok a ↔ R value a ∧ valid a)
    {a : α} : field decode value path name = .ok a ↔
      (∃ entry, value.get? name = some entry ∧ R entry a) ∧ valid a := by
  simp only [field_eq_ok, h]
  constructor
  · rintro ⟨entry, hentry, hform, hvalid⟩
    exact ⟨⟨entry, hentry, hform⟩, hvalid⟩
  · rintro ⟨⟨entry, hentry, hform⟩, hvalid⟩
    exact ⟨entry, hentry, hform, hvalid⟩

theorem field_eq_ok_encode (encode : α → JsonValue)
    (valid : α → Prop) (h : ∀ value path a, decode value path = .ok a ↔ value = encode a ∧ valid a)
    {a : α} :
    field decode value path name = .ok a ↔ value.get? name = some (encode a) ∧ valid a := by
  rw [field_eq_ok_form (fun value a => value = encode a) valid h]
  simp

section fields

theorem field_string : field string value path name = .ok text ↔
    value.get? name = some (.str text) ∧ nonblank text = true :=
  field_eq_ok_encode .str (fun text => nonblank text = true) fun _ _ _ => string_eq_ok

theorem field_optionalString : field (optional string) value path name = .ok a ↔
      value.get? name = some (optionToJson .str a) ∧ ∀ x, a = some x → nonblank x = true :=
  field_eq_ok_encode (optionToJson .str) (fun a => ∀ x, a = some x → nonblank x = true)
    fun _ _ _ => optionalString_eq_ok

theorem field_natural {n : Nat} : field natural value path name = .ok n ↔
    value.get? name = some (naturalToJson n) := by
  simp [field_eq_ok, natural_eq_ok]

theorem field_optionalNatural {a : Option Nat} : field (optional natural) value path name = .ok a ↔
      value.get? name = some (optionToJson naturalToJson a) := by
  simp [field_eq_ok, optionalNatural_eq_ok]

theorem field_stringTuple {values : List String} :
    field (tuple string) value path name = .ok values ↔
      value.get? name = some (.arr (values.map .str)) ∧ ∀ text ∈ values, nonblank text = true :=
  field_eq_ok_encode (fun values : List String => .arr (values.map .str))
    (fun values => ∀ text ∈ values, nonblank text = true) fun _ _ _ => stringTuple_eq_ok

theorem field_intTuple {values : List Nat} : field (tuple natural) value path name = .ok values ↔
    value.get? name = some (.arr (values.map naturalToJson)) := by
  simp [field_eq_ok, intTuple_eq_ok]

theorem field_enumValue [WireEnum α] {a : α} : field enumValue value path name = .ok a ↔
    value.get? name = some (.str (WireEnum.value a)) := by
  simp [field_eq_ok, enumValue_eq_ok]

end fields

def correlationToJson (correlation : OperationCorrelation) : JsonValue :=
  .obj [("request_ids", .arr (correlation.requestIds.map .str)),
    ("batch_id", optionToJson .str correlation.batchId),
    ("layer", optionToJson naturalToJson correlation.layer),
    ("microbatch", optionToJson naturalToJson correlation.microbatch),
    ("iteration", optionToJson naturalToJson correlation.iteration)]

def correlationFields : List String :=
  ["request_ids", "batch_id", "layer", "microbatch", "iteration"]

def correlationFromJson (value : JsonValue) (path : String) :
    Except PyError OperationCorrelation := do
  let payload ← object value path
  fields payload path [] correlationFields
  let requestIds ← fieldD (tuple string) payload path "request_ids" (.arr [])
  let batchId ← fieldD (optional string) payload path "batch_id"
  let layer ← fieldD (optional natural) payload path "layer"
  let microbatch ← fieldD (optional natural) payload path "microbatch"
  let iteration ← fieldD (optional natural) payload path "iteration"
  let correlation : OperationCorrelation := ⟨requestIds, batchId, layer, microbatch, iteration⟩
  validateCorrelation correlation path
  .ok correlation

/-- The wire objects a correlation is read from: any subset of the five fields, with defaults. -/
structure CorrelationForm (value : JsonValue) (correlation : OperationCorrelation) : Prop where
  shape : ∃ payload : Dict JsonValue, value = .obj payload ∧
    (∀ key ∈ payload.keys, key ∈ correlationFields) ∧
    get payload "request_ids" (.arr []) = .arr (correlation.requestIds.map .str) ∧
    get payload "batch_id" = optionToJson .str correlation.batchId ∧
    get payload "layer" = optionToJson naturalToJson correlation.layer ∧
    get payload "microbatch" = optionToJson naturalToJson correlation.microbatch ∧
    get payload "iteration" = optionToJson naturalToJson correlation.iteration

end Wire

structure OperationCorrelation.Valid (correlation : OperationCorrelation) : Prop where
  texts : ∀ text ∈ correlation.requestIds, nonblank text = true
  distinct : correlation.requestIds.Nodup
  batch : ∀ text, correlation.batchId = some text → nonblank text = true

variable {path : String}

theorem checkStrings_eq_ok {values : List String} {u : Unit} :
    checkStrings values path = .ok u ↔ ∀ text ∈ values, nonblank text = true := by
  unfold checkStrings checkString
  simp only [forEachIdx_eq_ok, require_eq_ok]
  constructor
  · intro h text htext
    obtain ⟨i, hi⟩ := mem_iff_getElem?.mp htext
    exact h i text hi
  · intro h i text hi
    exact h text (mem_of_getElem? hi)

theorem checkOptionalString_eq_ok {value : Option String} {u : Unit} :
    checkOptionalString value path = .ok u ↔ ∀ text, value = some text → nonblank text = true := by
  cases value with
  | none => simp [checkOptionalString]
  | some text => simp [checkOptionalString, checkString]

variable {correlation : OperationCorrelation}

theorem validateCorrelation_eq_ok {u : Unit} :
    validateCorrelation correlation path = .ok u ↔ correlation.Valid := by
  simp only [validateCorrelation, bind_eq_ok, checkStrings_eq_ok, validateUnique,
    require_eq_ok, decide_eq_true_eq, checkOptionalString_eq_ok]
  constructor
  · rintro ⟨_, htexts, _, hdistinct, hbatch⟩
    exact ⟨htexts, hdistinct, hbatch⟩
  · rintro ⟨htexts, hdistinct, hbatch⟩
    exact ⟨(), htexts, (), hdistinct, hbatch⟩

namespace Wire

theorem correlationFromJson_eq_ok {value : JsonValue} :
    correlationFromJson value path = .ok correlation ↔
      CorrelationForm value correlation ∧ correlation.Valid := by
  simp only [correlationFromJson, fieldD, bind_eq_ok, object_eq_ok, fields_eq_ok,
    stringTuple_eq_ok, optionalString_eq_ok, optionalNatural_eq_ok, validateCorrelation_eq_ok,
    Except.ok.injEq]
  constructor
  · rintro ⟨payload, rfl, _, ⟨-, hkeys⟩, ids, ⟨hids, -⟩, batch, ⟨hbatch, -⟩, layer, hlayer,
      microbatch, hmicro, iteration, hiteration, _, hvalid, rfl⟩
    refine ⟨⟨payload, rfl, fun key hkey => ?_, hids, hbatch, hlayer, hmicro, hiteration⟩, hvalid⟩
    exact (hkeys key hkey).resolve_left not_mem_nil
  · rintro ⟨⟨payload, rfl, hkeys, hids, hbatch, hlayer, hmicro, hiteration⟩, hvalid⟩
    exact ⟨payload, rfl, (), ⟨by simp, fun key hkey => .inr (hkeys key hkey)⟩, _,
      ⟨hids, hvalid.texts⟩, _, ⟨hbatch, hvalid.batch⟩, _, hlayer, _, hmicro, _, hiteration, (),
      hvalid, rfl⟩

theorem correlationForm_toJson (correlation : OperationCorrelation) :
    CorrelationForm (correlationToJson correlation) correlation :=
  ⟨_, rfl, by simp [Table.keys, correlationFields], rfl, rfl, rfl, rfl, rfl⟩

theorem field_correlation {value : Dict JsonValue} {name : String} :
    field correlationFromJson value path name = .ok correlation ↔
      (∃ entry, value.get? name = some entry ∧ CorrelationForm entry correlation) ∧
        correlation.Valid :=
  field_eq_ok_form CorrelationForm OperationCorrelation.Valid
    fun _ _ _ => correlationFromJson_eq_ok

end Wire

end SimLLM
