import Sudoku.Json.Record
import Sudoku.Proofs.Json.RoundTrip

/-!
# Reading records back

A way of writing values as JSON and a way of reading them belong together when reading
undoes writing and what is written is read back from its text. Lists and records of such
values are written and read in this way too, whichever fields of a record are absent.
-/

namespace Sudoku
namespace Json

/-! ### Item by item -/

/-- Work that succeeds on every item of a list succeeds on the list. -/
theorem mapM_eq_some {item result : Type} {work : item → Option result}
    {made : item → result} {items : List item}
    (works : ∀ item ∈ items, work item = some (made item)) :
    items.mapM work = some (items.map made) := by
  induction items with
  | nil => rfl
  | cons item rest inductionHypothesis =>
      obtain ⟨itemWorks, restWorks⟩ := List.forall_mem_cons.1 works
      rw [List.mapM_cons, itemWorks, inductionHypothesis restWorks]
      rfl

/-! ### Values -/

/-- Reading undoes writing, and what is written is read back from its text and not
taken for a missing value. -/
structure Inverts {value : Type} (write : value → Json) (read? : Json → Option value) :
    Prop where
  reads : ∀ held, read? (write held) = some held
  faithful : ∀ held, (write held).IsFaithful
  not_null : ∀ held, write held ≠ .null

namespace Inverts

/-- Truth values are read back. -/
protected theorem bool : Inverts .bool bool? where
  reads _ := rfl
  faithful held := .bool held
  not_null _ := nofun

/-- Signed integers of 64 bits are read back. -/
protected theorem int64 : Inverts (fun held : Int64 => .integer held.toInt) int64? where
  reads held := by
    have least := held.le_toInt
    have greatest := held.toInt_lt
    rw [int64?, if_pos ⟨by omega, by omega⟩, Int64.ofInt_toInt]
  faithful held := .integer held.toInt
  not_null _ := nofun

/-- Unsigned integers of 32 bits are read back. -/
protected theorem uint32 : Inverts (fun held : UInt32 => .integer held.toNat) uint32? where
  reads held := by
    have greatest := held.toNat_lt
    rw [uint32?, if_pos ⟨by omega, by omega⟩, Int.toNat_natCast, UInt32.ofNat_toNat]
  faithful held := .integer held.toNat
  not_null _ := nofun

/-- Unsigned integers of 64 bits are read back. -/
protected theorem uint64 : Inverts (fun held : UInt64 => .integer held.toNat) uint64? where
  reads held := by
    have greatest := held.toNat_lt
    rw [uint64?, if_pos ⟨by omega, by omega⟩, Int.toNat_natCast, UInt64.ofNat_toNat]
  faithful held := .integer held.toNat
  not_null _ := nofun

variable {value : Type} {write : value → Json} {read? : Json → Option value}
  (inverts : Inverts write read?)

include inverts

/-- Lists of values that are read back are read back. -/
protected theorem list : Inverts (fun held => .array (held.map write)) (list? read?) where
  reads held := by
    rw [list?, List.mapM_map]
    refine (mapM_eq_some ?_).trans (congrArg some (List.map_id held))
    exact fun item _ => inverts.reads item
  faithful held := .array fun item member => by
    obtain ⟨origin, _, rfl⟩ := List.mem_map.1 member
    exact inverts.faithful origin
  not_null _ := nofun

/-- A field that is there and not null is read as its value. -/
theorem optional?_some (held : value) :
    optional? read? (some (write held)) = some (some held) := by
  have reads := inverts.reads held
  have not_null := inverts.not_null held
  unfold optional?
  split
  · next absent => simp at absent
  · next isNull =>
      rw [Option.some.injEq] at isNull
      exact absurd isNull not_null
  · next there =>
      rw [Option.some.injEq] at there
      rw [← there, reads, Option.map_some]

/-- A field that is left out when it is absent is read back. -/
theorem optional?_map (held : Option value) :
    optional? read? (held.map write) = some held := by
  cases held with
  | none => rfl
  | some held => exact inverts.optional?_some held

/-- A field that is null when it is absent is read back. -/
theorem optional?_orNull (held : Option value) :
    optional? read? (some (orNull (held.map write))) = some held := by
  cases held with
  | none => rfl
  | some held => exact inverts.optional?_some held

/-- A field with a default is read back when it is there. -/
theorem orDefault?_some (default held : value) :
    orDefault? read? default (some (write held)) = some held :=
  inverts.reads held

/-- What is written for a field that may be left out is faithful. -/
theorem faithful_map {held : Option value} {json : Json} (written : held.map write = some json) :
    json.IsFaithful := by
  obtain ⟨origin, _, rfl⟩ := Option.map_eq_some_iff.1 written
  exact inverts.faithful origin

/-- What is written for a field that may be null is faithful. -/
theorem faithful_orNull (held : Option value) : (orNull (held.map write)).IsFaithful := by
  cases held with
  | none => exact .null
  | some held => exact inverts.faithful held

end Inverts

/-! ### Records -/

/-- The fields of a record that are there. -/
def present (fields : List (String × Option Json)) : List (String × Json) :=
  fields.flatMap fun entry => field entry.1 entry.2

/-- The values of a name come from the first field if that has the name, and from the
fields behind it. -/
theorem valuesOf_present_cons (name other : String) (held : Option Json)
    (rest : List (String × Option Json)) :
    valuesOf name ((present ((other, held) :: rest)).map fun entry => (some entry.1, entry.2)) =
      (if other = name then held.toList else []) ++
        valuesOf name ((present rest).map fun entry => (some entry.1, entry.2)) := by
  unfold present valuesOf
  rw [List.flatMap_cons, List.map_append, List.filter_append, List.map_append]
  congr 1
  cases held <;> by_cases same : other = name <;> simp [field, same]

/-- A name that no field has gives no values. -/
theorem valuesOf_present_of_not_mem {name : String} {fields : List (String × Option Json)}
    (free : name ∉ fields.map Prod.fst) :
    valuesOf name ((present fields).map fun entry => (some entry.1, entry.2)) = [] := by
  induction fields with
  | nil => rfl
  | cons first rest inductionHypothesis =>
      rw [List.map_cons, List.mem_cons, not_or] at free
      rw [valuesOf_present_cons, if_neg (Ne.symm free.1), inductionHypothesis free.2]
      rfl

/-- The values of the name of a field are its own, if no other field has the name. -/
theorem valuesOf_present {fields : List (String × Option Json)}
    (distinct : (fields.map Prod.fst).Nodup) {entry : String × Option Json}
    (member : entry ∈ fields) :
    valuesOf entry.1 ((present fields).map fun entry => (some entry.1, entry.2)) =
      entry.2.toList := by
  induction fields with
  | nil => simp at member
  | cons first rest inductionHypothesis =>
      rw [List.map_cons, List.nodup_cons] at distinct
      rw [valuesOf_present_cons]
      rcases List.mem_cons.1 member with rfl | behind
      · rw [if_pos rfl, valuesOf_present_of_not_mem distinct.1, List.append_nil]
      · have differs : first.1 ≠ entry.1 := fun same =>
          distinct.1 (same ▸ List.mem_map_of_mem behind)
        rw [if_neg differs, List.nil_append, inductionHypothesis distinct.2 behind]

/-- Fields of distinct names are found by their names, whichever of them are there. -/
theorem fields?_ofFields_present {fields : List (String × Option Json)}
    (distinct : (fields.map Prod.fst).Nodup) :
    fields? (fields.map Prod.fst) (ofFields (present fields)) =
      some (fields.map Prod.snd) := by
  have found : ∀ entry ∈ fields,
      valueOf? ((present fields).map fun entry => (some entry.1, entry.2)) entry.1 =
        some entry.2 := by
    intro entry member
    unfold valueOf?
    rw [valuesOf_present distinct member]
    cases entry.2 <;> rfl
  have named : ((present fields).map fun entry => (some entry.1, entry.2)).all
      (fun member => member.1.isSome) = true := by
    simp
  have all := mapM_eq_some found
  simp only [ofFields, fields?, named, if_true, List.mapM_map]
  exact all

/-- A record of faithful fields is faithful. -/
theorem isFaithful_ofFields {fields : List (String × Json)}
    (faithful : ∀ entry ∈ fields, entry.2.IsFaithful) : (ofFields fields).IsFaithful := by
  refine .object ?_ ?_
  · intro member isMember
    obtain ⟨entry, _, rfl⟩ := List.mem_map.1 isMember
    rfl
  · intro member isMember
    obtain ⟨entry, isEntry, rfl⟩ := List.mem_map.1 isMember
    exact faithful entry isEntry

/-- A record of fields that are faithful if they are there is faithful. -/
theorem isFaithful_ofFields_present {fields : List (String × Option Json)}
    (faithful : ∀ entry ∈ fields, ∀ json, entry.2 = some json → json.IsFaithful) :
    (ofFields (present fields)).IsFaithful := by
  refine isFaithful_ofFields fun entry member => ?_
  obtain ⟨origin, isField, here⟩ := List.mem_flatMap.1 member
  obtain ⟨json, there, rfl⟩ := Option.map_eq_some_iff.1 (Option.mem_toList.1 here)
  exact faithful origin isField json there

namespace Inverts

variable {value : Type} {write : value → Json} {read? : Json → Option value}

/-- A record is read back when its fields are and have distinct names. -/
protected theorem record (fields : value → List (String × Option Json))
    (written : ∀ held, write held = ofFields (present (fields held)))
    (distinct : ∀ held, ((fields held).map Prod.fst).Nodup)
    (faithful : ∀ held, ∀ entry ∈ fields held, ∀ json, entry.2 = some json → json.IsFaithful)
    (reads : ∀ held json, json.fields? ((fields held).map Prod.fst) =
      some ((fields held).map Prod.snd) → read? json = some held) :
    Inverts write read? where
  reads held := by
    apply reads held
    rw [written]
    exact fields?_ofFields_present (distinct held)
  faithful held := by
    rw [written]
    exact isFaithful_ofFields_present (faithful held)
  not_null held := by
    rw [written]
    exact nofun

end Inverts

end Json
end Sudoku
