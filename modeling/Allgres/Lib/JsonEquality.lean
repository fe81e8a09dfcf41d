import Mathlib.Tactic.Ring
import Allgres.Lib.Jsonb

/-! Equality of `jsonb` values, and what stripping and merging do to the fields of an object. -/

namespace Jsonb.Json

/-! ### Equality -/

mutual
theorem same_refl : ∀ value : Json, same value value = true
  | null => rfl
  | bool truth => by simp [same]
  | num mantissa scale => by simp [same]
  | str value => by simp [same]
  | arr items => by
    rw [same]
    exact sameItems_refl items
  | obj fields => by
    rw [same]
    exact sameFields_refl fields

theorem sameItems_refl : ∀ items : List Json, sameItems items items = true
  | [] => rfl
  | item :: rest => by
    rw [sameItems, same_refl item, sameItems_refl rest]
    rfl

theorem sameFields_refl : ∀ fields : List (String × Json), sameFields fields fields = true
  | [] => rfl
  | (key, value) :: rest => by
    rw [sameFields, same_refl value, sameFields_refl rest]
    simp
end

mutual
theorem same_symm : ∀ {a b : Json}, same a b = true → same b a = true
  | null, b, holds => by cases b <;> simp_all [same]
  | bool truth, b, holds => by cases b <;> simp_all [same]
  | num mantissa scale, b, holds => by cases b <;> simp_all [same]
  | str value, b, holds => by cases b <;> simp_all [same]
  | arr items, b, holds => by
    cases b with
    | arr items' =>
      rw [same] at holds ⊢
      exact sameItems_symm holds
    | _ => simp [same] at holds
  | obj fields, b, holds => by
    cases b with
    | obj fields' =>
      rw [same] at holds ⊢
      exact sameFields_symm holds
    | _ => simp [same] at holds

theorem sameItems_symm : ∀ {left right : List Json}, sameItems left right = true → sameItems right left = true
  | [], [], _ => rfl
  | [], _ :: _, holds => by simp [sameItems] at holds
  | _ :: _, [], holds => by simp [sameItems] at holds
  | a :: left, b :: right, holds => by
    simp only [sameItems, Bool.and_eq_true] at holds ⊢
    exact ⟨same_symm holds.1, sameItems_symm holds.2⟩

theorem sameFields_symm : ∀ {left right : List (String × Json)},
    sameFields left right = true → sameFields right left = true
  | [], [], _ => rfl
  | [], _ :: _, holds => by simp [sameFields] at holds
  | _ :: _, [], holds => by simp [sameFields] at holds
  | (key, a) :: left, (other, b) :: right, holds => by
    simp only [sameFields, Bool.and_eq_true, beq_iff_eq] at holds ⊢
    exact ⟨⟨holds.1.1.symm, same_symm holds.1.2⟩, sameFields_symm holds.2⟩
end

/-- Two decimals that equal a third one are equal. -/
theorem decimal_trans {m n o : Int} {s r q : Nat} (first : m * 10 ^ r = n * 10 ^ s) (second : n * 10 ^ q = o * 10 ^ r) :
    m * 10 ^ q = o * 10 ^ s := by
  have scaled : (m * 10 ^ q) * 10 ^ r = (o * 10 ^ s) * 10 ^ r := by
    calc (m * 10 ^ q) * 10 ^ r = (m * 10 ^ r) * 10 ^ q := by ring
      _ = (n * 10 ^ s) * 10 ^ q := by rw [first]
      _ = (n * 10 ^ q) * 10 ^ s := by ring
      _ = (o * 10 ^ r) * 10 ^ s := by rw [second]
      _ = (o * 10 ^ s) * 10 ^ r := by ring
  exact mul_right_cancel₀ (pow_ne_zero r (by norm_num)) scaled

mutual
theorem same_trans : ∀ {a b c : Json}, same a b = true → same b c = true → same a c = true
  | null, b, c, first, second => by cases b <;> cases c <;> simp_all [same]
  | bool truth, b, c, first, second => by cases b <;> cases c <;> simp_all [same]
  | num mantissa scale, b, c, first, second => by
    cases b with
    | num mantissa' scale' =>
      cases c with
      | num mantissa'' scale'' =>
        simp only [same, beq_iff_eq] at first second ⊢
        exact decimal_trans first second
      | _ => simp [same] at second
    | _ => simp [same] at first
  | str value, b, c, first, second => by cases b <;> cases c <;> simp_all [same]
  | arr items, b, c, first, second => by
    cases b with
    | arr items' =>
      cases c with
      | arr items'' =>
        rw [same] at first second ⊢
        exact sameItems_trans first second
      | _ => simp [same] at second
    | _ => simp [same] at first
  | obj fields, b, c, first, second => by
    cases b with
    | obj fields' =>
      cases c with
      | obj fields'' =>
        rw [same] at first second ⊢
        exact sameFields_trans first second
      | _ => simp [same] at second
    | _ => simp [same] at first

theorem sameItems_trans : ∀ {left middle right : List Json},
    sameItems left middle = true → sameItems middle right = true → sameItems left right = true
  | [], [], _, _, second => second
  | [], _ :: _, _, first, _ => by simp [sameItems] at first
  | _ :: _, [], _, first, _ => by simp [sameItems] at first
  | _ :: _, _ :: _, [], _, second => by simp [sameItems] at second
  | a :: left, b :: middle, c :: right, first, second => by
    simp only [sameItems, Bool.and_eq_true] at first second ⊢
    exact ⟨same_trans first.1 second.1, sameItems_trans first.2 second.2⟩

theorem sameFields_trans : ∀ {left middle right : List (String × Json)},
    sameFields left middle = true → sameFields middle right = true → sameFields left right = true
  | [], [], _, _, second => second
  | [], _ :: _, _, first, _ => by simp [sameFields] at first
  | _ :: _, [], _, first, _ => by simp [sameFields] at first
  | _ :: _, _ :: _, [], _, second => by simp [sameFields] at second
  | (key, a) :: left, (other, b) :: middle, (third, c) :: right, first, second => by
    simp only [sameFields, Bool.and_eq_true, beq_iff_eq] at first second ⊢
    exact ⟨⟨first.1.1.trans second.1.1, same_trans first.1.2 second.1.2⟩, sameFields_trans first.2 second.2⟩
end

/-- Equal objects have the same keys. -/
theorem keys_of_sameFields : ∀ {left right : List (String × Json)}, sameFields left right = true →
    left.map Prod.fst = right.map Prod.fst
  | [], [], _ => rfl
  | [], _ :: _, holds => by simp [sameFields] at holds
  | _ :: _, [], holds => by simp [sameFields] at holds
  | (key, a) :: left, (other, b) :: right, holds => by
    simp only [sameFields, Bool.and_eq_true, beq_iff_eq] at holds
    simp [holds.1.1, keys_of_sameFields holds.2]

/-! ### Stripping -/

theorem stripNulls_ne_null {value : Json} (present : value ≠ null) : stripNulls value ≠ null := by
  cases value <;> simp_all [stripNulls]

theorem stripFields_cons {key : String} {value : Json} (present : value ≠ null) (rest : List (String × Json)) :
    stripFields ((key, value) :: rest) = (key, stripNulls value) :: stripFields rest := by
  cases value <;> simp_all [stripFields]

mutual
theorem stripNulls_stripNulls : ∀ value : Json, stripNulls (stripNulls value) = stripNulls value
  | null => rfl
  | bool _ => rfl
  | num _ _ => rfl
  | str _ => rfl
  | arr items => by
    rw [stripNulls, stripNulls, stripItems_stripItems items]
  | obj fields => by
    rw [stripNulls, stripNulls, stripFields_stripFields fields]

theorem stripItems_stripItems : ∀ items : List Json, stripItems (stripItems items) = stripItems items
  | [] => rfl
  | item :: rest => by
    rw [stripItems, stripItems, stripNulls_stripNulls item, stripItems_stripItems rest]

theorem stripFields_stripFields : ∀ fields : List (String × Json), stripFields (stripFields fields) = stripFields fields
  | [] => rfl
  | (key, value) :: rest => by
    by_cases absent : value = null
    · subst absent
      rw [stripFields, stripFields_stripFields rest]
    · rw [stripFields_cons absent, stripFields_cons (stripNulls_ne_null absent), stripNulls_stripNulls value,
        stripFields_stripFields rest]
end

/-! ### Fields by key -/

/-- What stripping leaves of the value of a field. -/
def present : Json → Option Json
  | null => none
  | value => some (stripNulls value)

theorem present_of_ne {value : Json} (given : value ≠ null) : present value = some (stripNulls value) := by
  cases value <;> first | rfl | exact absurd rfl given

theorem present_present (value : Json) : present ((present value).getD null) = present value := by
  by_cases absent : value = null
  · subst absent
    rfl
  · rw [present_of_ne absent, Option.getD_some, present_of_ne (stripNulls_ne_null absent), stripNulls_stripNulls]

theorem stripFields_eq_filterMap (fields : List (String × Json)) :
    stripFields fields = fields.filterMap fun field => (present field.2).map (Prod.mk field.1) := by
  induction fields with
  | nil => rfl
  | cons field rest ih =>
    obtain ⟨key, value⟩ := field
    by_cases absent : value = null
    · subst absent
      rw [stripFields, ih]
      rfl
    · rw [stripFields_cons absent, ih, List.filterMap_cons]
      simp only [present_of_ne absent, Option.map_some]

/-- A field of `left || right` is that of the right object, if it has one. -/
theorem lookup_setFields {left right : List (String × Json)} (distinct : (right.map Prod.fst).Nodup) (key : String) :
    (right.foldl (fun held field => setField field.1 field.2 held) left).lookup key =
      (right.lookup key).or (left.lookup key) := by
  induction right generalizing left with
  | nil => rfl
  | cons field rest ih =>
    obtain ⟨name, value⟩ := field
    rw [List.map_cons, List.nodup_cons] at distinct
    rw [List.foldl_cons, ih distinct.2, lookup_setField]
    by_cases same : key = name
    · subst same
      have later : rest.lookup key = none := by
        refine List.lookup_eq_none_iff.mpr fun field member => ?_
        have listed : field.1 ∈ rest.map Prod.fst := List.mem_map_of_mem member
        rw [bne_iff_ne]
        rintro rfl
        exact distinct.1 listed
      simp [later]
    · simp [List.lookup_cons, beq_eq_false_iff_ne.mpr same, same]

/-- The object with those of the given keys that have a value. -/
def ofKeys (keys : List String) (held : String → Option Json) : Json :=
  .obj (keys.filterMap fun key => (held key).map (Prod.mk key))

variable {keys : List String} {held held' : String → Option Json} {key : String}

theorem ofKeys_congr (same : ∀ key ∈ keys, held key = held' key) : ofKeys keys held = ofKeys keys held' := by
  refine congrArg Json.obj (List.filterMap_congr fun key listed => ?_)
  rw [same key listed]

theorem keys_ofKeys (keys : List String) (held : String → Option Json) :
    (ofKeys keys held).keys = keys.filter fun key => (held key).isSome := by
  rw [ofKeys, Json.keys]
  induction keys with
  | nil => rfl
  | cons key rest ih =>
    cases value : held key with
    | none => simp [value, ih]
    | some value => simp [value, ih]

theorem mem_keys_ofKeys (listed : key ∈ keys) : key ∈ (ofKeys keys held).keys ↔ (held key).isSome = true := by
  rw [keys_ofKeys, List.mem_filter]
  exact and_iff_right listed

theorem get?_ofKeys (listed : key ∈ keys) : (ofKeys keys held).get? key = held key := by
  rw [ofKeys, Json.get?]
  induction keys with
  | nil => cases listed
  | cons first rest ih =>
    by_cases same : key = first
    · subst same
      cases value : held key with
      | none =>
        by_cases again : key ∈ rest
        · simp [value, ih again]
        · rw [List.filterMap_cons, value, Option.map_none, List.lookup_eq_none_iff]
          intro field member
          obtain ⟨other, inside, made⟩ := List.mem_filterMap.mp member
          obtain ⟨_, -, rfl⟩ := Option.map_eq_some_iff.mp made
          rw [bne_iff_ne]
          rintro rfl
          exact again inside
      | some value => simp [value]
    · have later : key ∈ rest := (List.mem_cons.mp listed).resolve_left same
      cases value : held first with
      | none => simp [value, ih later]
      | some value => simp [value, ih later, List.lookup_cons, beq_eq_false_iff_ne.mpr same]

theorem get?_concat_ofKeys (distinct : keys.Nodup) (listed : key ∈ keys) :
    ((ofKeys keys held).concat (ofKeys keys held')).get? key = (held' key).or (held key) := by
  have once : ((ofKeys keys held').keys).Nodup := by
    rw [keys_ofKeys]
    exact distinct.filter _
  have left := @get?_ofKeys _ held _ listed
  have right := @get?_ofKeys _ held' _ listed
  rw [ofKeys, Json.get?] at left right
  rw [ofKeys, ofKeys, Json.concat, Json.get?, lookup_setFields once, left, right]

/-- Equal objects have values for the same keys. -/
theorem isSome_of_same_ofKeys (same : (ofKeys keys held).same (ofKeys keys held') = true) (listed : key ∈ keys) :
    (held key).isSome = (held' key).isSome := by
  have equal : (ofKeys keys held).keys = (ofKeys keys held').keys := by
    rw [ofKeys, ofKeys, Json.same] at same
    exact keys_of_sameFields same
  rw [Bool.eq_iff_iff, ← mem_keys_ofKeys listed, ← mem_keys_ofKeys listed, equal]

end Jsonb.Json
