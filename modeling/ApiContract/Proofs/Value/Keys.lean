import ApiContract.Value.Fields
import Mathlib.Data.List.Induction

/-!
# Distinct keys

A mapping holds each key once. A field list can hold a key twice, but the ones that come from a
document do not: setting fields one after the other keeps their keys distinct.
-/

namespace ApiContract

namespace Fields

/-- Is each key of the field list there once? -/
def distinct : Fields → Bool
  | [] => true
  | (key, _) :: rest => rest.all (fun f => !key.sameKey f.1) && distinct rest

-- The keys of a field list with distinct keys differ pairwise.
theorem pairwise_of_distinct {fields : Fields} (h : distinct fields = true) :
    fields.Pairwise fun f g => f.1.sameKey g.1 = false := by
  induction fields with
  | nil => exact List.Pairwise.nil
  | cons f rest ih =>
    simp only [distinct, Bool.and_eq_true, List.all_eq_true, Bool.not_eq_true'] at h
    exact List.Pairwise.cons h.1 (ih h.2)

theorem distinct_of_pairwise {fields : Fields}
    (h : fields.Pairwise fun f g => f.1.sameKey g.1 = false) : distinct fields = true := by
  induction h with
  | nil => rfl
  | cons hfirst _ ih =>
    simp only [distinct, Bool.and_eq_true, List.all_eq_true, Bool.not_eq_true']
    exact ⟨hfirst, ih⟩

-- Only the keys count.
theorem distinct_congr {fields others : Fields} (h : fields.map (·.1) = others.map (·.1)) :
    distinct fields = distinct others := by
  induction fields generalizing others with
  | nil => rw [List.map_eq_nil_iff.1 h.symm]
  | cons f rest ih =>
    obtain ⟨g, rest', rfl, hfirst, hrest⟩ := List.map_eq_cons_iff.1 h.symm
    have hall : ∀ fields : Fields, (fields.all fun g => !f.1.sameKey g.1) =
        (fields.map (·.1)).all fun key => !f.1.sameKey key := by
      intro fields
      rw [List.all_map]
      rfl
    rw [distinct, distinct, hfirst, hall, hall, hrest, ih hrest.symm]

-- The keys after setting a field are those before, and perhaps the one that was set.
theorem key_of_mem_set {key : Scalar} {v : Value} {fields : Fields} {f : Scalar × Value}
    (h : f ∈ set key v fields) : f.1 = key ∨ ∃ g ∈ fields, g.1 = f.1 := by
  induction fields with
  | nil =>
    rw [set_nil, List.mem_singleton] at h
    exact Or.inl (by rw [h])
  | cons g rest ih =>
    rw [set] at h
    split at h
    · rcases List.mem_cons.1 h with h | h
      · exact Or.inr ⟨g, List.mem_cons_self, by rw [h]⟩
      · exact Or.inr ⟨f, List.mem_cons_of_mem g h, rfl⟩
    · rcases List.mem_cons.1 h with h | h
      · exact Or.inr ⟨g, List.mem_cons_self, by rw [h]⟩
      · rcases ih h with h | ⟨g', hg', he⟩
        · exact Or.inl h
        · exact Or.inr ⟨g', List.mem_cons_of_mem g hg', he⟩

-- Setting a field keeps the keys distinct.
theorem distinct_set (key : Scalar) (v : Value) {fields : Fields} (h : distinct fields = true) :
    distinct (set key v fields) = true := by
  induction fields with
  | nil => rfl
  | cons g rest ih =>
    simp only [distinct, Bool.and_eq_true, List.all_eq_true] at h
    rw [set]
    split
    · simpa [distinct] using h
    · rename_i hne
      simp only [distinct, Bool.and_eq_true, List.all_eq_true]
      refine ⟨fun f hf => ?_, ih h.2⟩
      rcases key_of_mem_set hf with he | ⟨g', hg', he⟩
      · rw [he]
        simpa using hne
      · rw [← he]
        exact h.1 g' hg'

-- No key but a text is the same key as that text.
theorem sameKey_str_iff {key : Scalar} {s : String} :
    key.sameKey (.str s) = true ↔ key = .str s := by
  cases key <;> simp [Scalar.sameKey, Scalar.number?]

theorem key_of_sameKey {key : Scalar} {s : String} (h : (Scalar.str s).sameKey key = true) :
    key = .str s := by
  cases key <;> simp_all [Scalar.sameKey, Scalar.number?]

-- The first field with the name decides.
theorem lookup_cons {key : Scalar} {name : String} {v : Value} {rest : Fields} :
    Value.lookup ((key, v) :: rest) name =
      if key = .str name then some v else Value.lookup rest name := by
  rw [Value.lookup, List.lookup_cons]
  by_cases h : key = .str name
  · rw [if_pos h, h, beq_self_eq_true]
  · rw [if_neg h, beq_eq_false_iff_ne.2 (Ne.symm h), Value.lookup]

-- Setting a field changes what stands under its key and nothing else.
theorem lookup_set_key {key : Scalar} {name : String} {v : Value} {fields : Fields} :
    Value.lookup (set key v fields) name =
      if key = .str name then some v else Value.lookup fields name := by
  induction fields with
  | nil =>
    rw [set_nil, lookup_cons]
  | cons f rest ih =>
    rcases f with ⟨k, w⟩
    rw [set]
    split
    · rename_i hsame
      rw [lookup_cons, lookup_cons]
      by_cases h : key = .str name
      · obtain rfl : k = .str name := sameKey_str_iff.1 (h ▸ hsame)
        rw [if_pos rfl, if_pos h]
      · have hne : k ≠ .str name := by
          rintro rfl
          exact h (key_of_sameKey hsame)
        rw [if_neg hne, if_neg h, if_neg hne]
    · rename_i hsame
      rw [lookup_cons, lookup_cons, ih]
      by_cases h : k = .str name
      · have hne : key ≠ .str name := by
          rintro rfl
          exact hsame (sameKey_str_iff.2 h)
        rw [if_pos h, if_pos h, if_neg hne]
      · rw [if_neg h, if_neg h]

theorem lookup_set {key name : String} {v : Value} {fields : Fields} :
    Value.lookup (set (.str key) v fields) name =
      if key = name then some v else Value.lookup fields name := by
  rw [lookup_set_key]
  simp only [Scalar.str.injEq]

-- Of the pairs that are set, the last one under a name counts.
theorem lookup_ofPairs {pairs : List (Scalar × Value)} {name : String} :
    Value.lookup (ofPairs pairs) name = pairs.reverse.lookup (.str name) := by
  induction pairs using List.reverseRecOn with
  | nil => rfl
  | append_singleton pairs p ih =>
    rw [ofPairs_concat, lookup_set_key, ih, List.reverse_concat]
    exact lookup_cons.symm

-- Fields that are set one after the other have distinct keys.
theorem distinct_ofPairs (pairs : List (Scalar × Value)) : distinct (ofPairs pairs) = true := by
  suffices h : ∀ fields, distinct fields = true →
      distinct (pairs.foldl (fun fields p => set p.1 p.2 fields) fields) = true from h [] rfl
  induction pairs with
  | nil => exact fun fields h => h
  | cons p pairs ih => exact fun fields h => ih _ (distinct_set p.1 p.2 h)

-- A key that is not there yet is set at the end.
theorem set_of_new {key : Scalar} {v : Value} {fields : Fields}
    (h : ∀ f ∈ fields, f.1.sameKey key = false) : set key v fields = fields ++ [(key, v)] := by
  induction fields with
  | nil => rfl
  | cons f rest ih =>
    obtain ⟨hfirst, hrest⟩ := List.forall_mem_cons.1 h
    rw [set, hfirst, if_neg (by decide), ih hrest, List.cons_append]

-- Pairs with distinct keys are set as they stand.
theorem ofPairs_of_distinct {pairs : Fields} (h : distinct pairs = true) : ofPairs pairs = pairs := by
  have hpairs := pairwise_of_distinct h
  clear h
  induction pairs using List.reverseRecOn with
  | nil => rfl
  | append_singleton pairs p ih =>
    obtain ⟨hbefore, -, hnew⟩ := List.pairwise_append.1 hpairs
    rw [ofPairs_concat, ih hbefore]
    exact set_of_new fun f hf => hnew f hf p (List.mem_singleton_self p)

end Fields

namespace Value

mutual
/-- Does every object in the value hold each of its keys once? -/
def wellKeyed : Value → Bool
  | .scalar _ => true
  | .list items => wellKeyedItems items
  | .object fields => Fields.distinct fields && wellKeyedFields fields

/-- The same for the items of a list. -/
def wellKeyedItems : List Value → Bool
  | [] => true
  | v :: rest => wellKeyed v && wellKeyedItems rest

/-- The same for what stands in the fields of an object. -/
def wellKeyedFields : Fields → Bool
  | [] => true
  | (_, v) :: rest => wellKeyed v && wellKeyedFields rest
end

-- What stands in a field of well-keyed fields is well keyed.
theorem wellKeyed_of_mem {fields : Fields} {f : Scalar × Value} (h : wellKeyedFields fields = true)
    (hf : f ∈ fields) : f.2.wellKeyed = true := by
  induction fields with
  | nil => cases hf
  | cons g rest ih =>
    simp only [wellKeyedFields, Bool.and_eq_true] at h
    rcases List.mem_cons.1 hf with rfl | hf
    · exact h.1
    · exact ih h.2 hf

-- Setting a field may drop a value, but brings in only the one that is set.
theorem wellKeyedFields_set {key : Scalar} {v : Value} {fields : Fields} (hv : v.wellKeyed = true)
    (h : wellKeyedFields fields = true) : wellKeyedFields (Fields.set key v fields) = true := by
  induction fields with
  | nil => simp [wellKeyedFields, hv]
  | cons f rest ih =>
    simp only [wellKeyedFields, Bool.and_eq_true] at h
    rw [Fields.set]
    split
    · simp only [wellKeyedFields, Bool.and_eq_true]
      exact ⟨hv, h.2⟩
    · simp only [wellKeyedFields, Bool.and_eq_true]
      exact ⟨h.1, ih h.2⟩

-- An object that is set from well-keyed values, field by field, is well keyed.
theorem wellKeyed_ofPairs {pairs : List (Scalar × Value)}
    (h : ∀ p ∈ pairs, p.2.wellKeyed = true) :
    (Value.object (Fields.ofPairs pairs)).wellKeyed = true := by
  rw [wellKeyed, Fields.distinct_ofPairs, Bool.true_and]
  induction pairs using List.reverseRecOn with
  | nil => rfl
  | append_singleton pairs p ih =>
    rw [Fields.ofPairs_concat]
    apply wellKeyedFields_set
    · exact h p (List.mem_append_right pairs List.mem_cons_self)
    · exact ih fun q hq => h q (List.mem_append_left _ hq)

-- A list is well keyed when its items are.
theorem wellKeyed_list {items : List Value} (h : ∀ v ∈ items, v.wellKeyed = true) :
    (Value.list items).wellKeyed = true := by
  rw [wellKeyed]
  induction items with
  | nil => rfl
  | cons v rest ih =>
    rw [wellKeyedItems, h v List.mem_cons_self, Bool.true_and]
    exact ih fun w hw => h w (List.mem_cons_of_mem v hw)

theorem wellKeyed_of_mem_list {items : List Value} {v : Value}
    (h : (Value.list items).wellKeyed = true) (hv : v ∈ items) : v.wellKeyed = true := by
  rw [wellKeyed] at h
  induction items with
  | nil => cases hv
  | cons w rest ih =>
    simp only [wellKeyedItems, Bool.and_eq_true] at h
    rcases List.mem_cons.1 hv with rfl | hv
    · exact h.1
    · exact ih h.2 hv

-- A lookup finds one of the fields.
theorem mem_of_lookup {fields : Fields} {name : String} {v : Value}
    (h : lookup fields name = some v) : (.str name, v) ∈ fields := by
  unfold lookup at h
  rcases List.lookup_eq_some_iff.1 h with ⟨before, after, rfl, -⟩
  simp

-- Where the keys are distinct, a lookup finds each of the fields under its name.
theorem lookup_of_mem {fields : Fields} {name : String} {v : Value}
    (h : Fields.distinct fields = true) (hmem : (.str name, v) ∈ fields) :
    lookup fields name = some v := by
  induction fields with
  | nil => cases hmem
  | cons f rest ih =>
    obtain ⟨key, w⟩ := f
    simp only [Fields.distinct, Bool.and_eq_true, List.all_eq_true, Bool.not_eq_true'] at h
    rw [Fields.lookup_cons]
    rcases List.mem_cons.1 hmem with heq | hrest
    · cases heq
      rw [if_pos rfl]
    · have hne : key ≠ .str name := fun heq => by
        have hdiffer := h.1 _ hrest
        rw [heq, Fields.sameKey_str, beq_self_eq_true] at hdiffer
        cases hdiffer
      rw [if_neg hne, ih h.2 hrest]

-- Where the keys are distinct, it makes no difference from which end a name is looked up.
theorem lookup_reverse_of_distinct {fields : Fields} {name : String}
    (h : Fields.distinct fields = true) :
    fields.reverse.lookup (.str name) = lookup fields name := by
  induction fields with
  | nil => rfl
  | cons f rest ih =>
    obtain ⟨key, v⟩ := f
    simp only [Fields.distinct, Bool.and_eq_true, List.all_eq_true, Bool.not_eq_true'] at h
    have hlast : [(key, v)].lookup (.str name) = if key = .str name then some v else none :=
      Fields.lookup_cons
    rw [List.reverse_cons, List.lookup_append, ih h.2, hlast, Fields.lookup_cons]
    by_cases hkey : key = .str name
    · have hnone : lookup rest name = none := by
        cases hfound : lookup rest name with
        | none => rfl
        | some w =>
          have hdiffer := h.1 _ (mem_of_lookup hfound)
          rw [hkey, Fields.sameKey_str, beq_self_eq_true] at hdiffer
          cases hdiffer
      rw [hnone, if_pos hkey, Option.none_or]
    · rw [if_neg hkey, if_neg hkey, Option.or_none]

-- An object under a key of a well-keyed object has distinct keys.
theorem distinct_of_lookup {fields members : Fields} {name : String}
    (h : (Value.object fields).wellKeyed = true)
    (hl : lookup fields name = some (.object members)) :
    Fields.distinct members = true := by
  simp only [wellKeyed, Bool.and_eq_true] at h
  have hv := wellKeyed_of_mem h.2 (mem_of_lookup hl)
  simp only [wellKeyed, Bool.and_eq_true] at hv
  exact hv.1

end Value

end ApiContract
