import ApiContract.Document.Load
import ApiContract.Proofs.Result
import ApiContract.Proofs.Value.Keys
import Mathlib.Logic.Basic

/-!
# Loaded documents

Whatever is read from a file, of JSON or of YAML, holds each key of each of its objects once, since
the readers set the fields of an object one after the other.
-/

namespace ApiContract

/-! ## JSON -/

namespace Json

variable {cs rest : List Char} {v : Value}

-- A number is a scalar, with or without a fraction.
theorem wellKeyed_of_readMagnitude {negative : Bool}
    (h : readMagnitude negative cs = some (v, rest)) : v.wellKeyed = true := by
  unfold readMagnitude at h
  rcases Option.bind_eq_some_iff.1 h with ⟨⟨whole, rest'⟩, -, h⟩
  rcases ite_eq_iff.1 h with ⟨-, h⟩ | ⟨-, h⟩
  · cases h
    rfl
  · cases h
    rfl

theorem wellKeyed_of_readNumber (h : readNumber cs = some (v, rest)) : v.wellKeyed = true := by
  unfold readNumber at h
  split at h
  · split at h
    · cases h
      rfl
    · exact wellKeyed_of_readMagnitude h
  · exact wellKeyed_of_readMagnitude h

-- What is neither a list nor an object has no keys.
theorem wellKeyed_of_readScalar (h : readScalar cs = some (v, rest)) : v.wellKeyed = true := by
  unfold readScalar at h
  split at h
  · rcases Option.map_eq_some_iff.1 h with ⟨⟨s, rest'⟩, -, heq⟩
    cases heq
    rfl
  · dsimp only at h
    split at h
    · rename_i found hfound
      cases h
      rcases List.exists_of_findSome?_eq_some hfound with ⟨⟨word, w⟩, hmem, hword⟩
      rcases Option.map_eq_some_iff.1 hword with ⟨rest', -, heq⟩
      cases heq
      have hwords : ∀ p ∈ [("null", Value.null), ("true", .bool true), ("false", .bool false),
          ("NaN", .float .nan), ("Infinity", .float (.infinite false))], p.2.wellKeyed = true := by
        decide
      exact hwords _ hmem
    · exact wellKeyed_of_readNumber h

section

variable {fuel : Nat}
  (hvalue : ∀ {cs v rest}, readValue fuel cs = some (v, rest) → v.wellKeyed = true)
  (hitems : ∀ {cs items rest}, readItems fuel cs = some (items, rest) →
    ∀ v ∈ items, v.wellKeyed = true)
  (hfields : ∀ {cs pairs rest}, readFields fuel cs = some (pairs, rest) →
    ∀ p ∈ pairs, p.2.wellKeyed = true)

include hitems hfields in
-- A value is a list of items, an object of fields, or a scalar.
theorem wellKeyed_of_readValue (h : readValue (fuel + 1) cs = some (v, rest)) :
    v.wellKeyed = true := by
  unfold readValue at h
  split at h
  · rename_i heq
    cases heq
  · rename_i heq
    cases heq
    split at h
    · cases h
      rfl
    · rcases Option.bind_eq_some_iff.1 h with ⟨⟨items, rest'⟩, hread, h⟩
      cases h
      exact Value.wellKeyed_list (hitems hread)
  · rename_i heq
    cases heq
    split at h
    · cases h
      rfl
    · rcases Option.bind_eq_some_iff.1 h with ⟨⟨pairs, rest'⟩, hread, h⟩
      cases h
      exact Value.wellKeyed_ofPairs (hfields hread)
  · exact wellKeyed_of_readScalar h

include hvalue hitems in
-- Items are one value, and perhaps further items behind a comma.
theorem wellKeyed_of_readItems {items : List Value}
    (h : readItems (fuel + 1) cs = some (items, rest)) : ∀ v ∈ items, v.wellKeyed = true := by
  unfold readItems at h
  rcases Option.bind_eq_some_iff.1 h with ⟨⟨v, rest'⟩, hread, h⟩
  have hv := hvalue hread
  dsimp only at h
  split at h
  · cases h
    intro w hw
    rw [List.mem_singleton.1 hw]
    exact hv
  · rcases Option.bind_eq_some_iff.1 h with ⟨⟨others, rest''⟩, hothers, h⟩
    cases h
    exact List.forall_mem_cons.2 ⟨hv, hitems hothers⟩
  · cases h

include hvalue hfields in
-- Fields are one value under its key, and perhaps further fields behind a comma.
theorem wellKeyed_of_readFields {pairs : List (Scalar × Value)}
    (h : readFields (fuel + 1) cs = some (pairs, rest)) :
    ∀ p ∈ pairs, p.2.wellKeyed = true := by
  unfold readFields at h
  split at h
  · rename_i heq
    cases heq
  · rename_i heq
    cases heq
    rcases Option.bind_eq_some_iff.1 h with ⟨⟨key, rest'⟩, -, h⟩
    dsimp only at h
    split at h
    · rcases Option.bind_eq_some_iff.1 h with ⟨⟨v, rest''⟩, hread, h⟩
      have hv := hvalue hread
      dsimp only at h
      split at h
      · cases h
        intro p hp
        rw [List.mem_singleton.1 hp]
        exact hv
      · rcases Option.bind_eq_some_iff.1 h with ⟨⟨others, _⟩, hothers, h⟩
        cases h
        exact List.forall_mem_cons.2 ⟨hv, hfields hothers⟩
      · cases h
    · cases h
  · cases h

end

/-- Values, items and fields are well keyed, by induction on the steps that are left. -/
theorem wellKeyed_of_reading (fuel : Nat) :
    (∀ {cs v rest}, readValue fuel cs = some (v, rest) → v.wellKeyed = true) ∧
    (∀ {cs items rest}, readItems fuel cs = some (items, rest) →
      ∀ v ∈ items, v.wellKeyed = true) ∧
    (∀ {cs pairs rest}, readFields fuel cs = some (pairs, rest) →
      ∀ p ∈ pairs, p.2.wellKeyed = true) := by
  induction fuel with
  | zero =>
    refine ⟨?_, ?_, ?_⟩
    · intro cs v rest h
      simp [readValue] at h
    · intro cs items rest h
      simp [readItems] at h
    · intro cs pairs rest h
      simp [readFields] at h
  | succ fuel ih =>
    rcases ih with ⟨hvalue, hitems, hfields⟩
    refine ⟨?_, ?_, ?_⟩
    · intro cs v rest h
      exact wellKeyed_of_readValue hitems hfields h
    · intro cs items rest h
      exact wellKeyed_of_readItems hvalue hitems h
    · intro cs pairs rest h
      exact wellKeyed_of_readFields hvalue hfields h

theorem wellKeyed_of_read? {text : String} (h : read? text = some v) : v.wellKeyed = true := by
  unfold read? at h
  dsimp only at h
  rcases Option.bind_eq_some_iff.1 h with ⟨⟨w, rest⟩, hread, h⟩
  dsimp only at h
  split at h
  · cases h
    exact (wellKeyed_of_reading _).1 hread
  · cases h

end Json

/-! ## YAML -/

namespace Yaml.Node

-- The content of a faulty node is null.
theorem wellKeyed_of_scalarContent (tag : Tag) (text : Option String) :
    (scalarContent tag text).value.wellKeyed = true := by
  unfold scalarContent
  split
  · rfl
  · split <;> rfl

-- The fields of a mapping are set pair by pair.
theorem wellKeyed_of_mappingContent {pairs : Except Fault (List Pair)}
    (h : ∀ ps, pairs = .ok ps → ∀ p ∈ ps, p.value.value.wellKeyed = true) :
    (mappingContent pairs).value.wellKeyed = true := by
  unfold mappingContent
  split
  · rfl
  · rename_i ps
    apply Value.wellKeyed_ofPairs
    intro f hf
    rcases List.mem_filterMap.1 hf with ⟨p, hp, hfield⟩
    unfold Pair.field? at hfield
    split at hfield
    · cases hfield
    · cases hfield
      exact h ps rfl p hp

-- The contents of nodes and of pairs are well keyed, by induction on how they are found.
theorem wellKeyed_of_contents :
    (∀ n : Node, n.content.value.wellKeyed = true) ∧
    (∀ pairs ps, mergedPairs pairs = .ok ps → ∀ p ∈ ps, p.value.value.wellKeyed = true) ∧
    (∀ pairs ps, splitPairs pairs = .ok ps →
      ∀ p ∈ ps.1 ++ ps.2, p.value.value.wellKeyed = true) ∧
    (∀ items ps, mergedItems items = .ok ps → ∀ p ∈ ps, p.value.value.wellKeyed = true) ∧
    (∀ items, ∀ c ∈ contents items, c.value.wellKeyed = true) := by
  apply content.mutual_induct
  -- A node stands for a scalar, for a list or for a mapping, or is at fault.
  · intro tag text htag
    rw [content, if_pos htag]
    rfl
  · intro tag text htag
    rw [content, if_neg htag]
    exact wellKeyed_of_scalarContent tag (some text)
  · intro items hitems
    rw [content]
    apply Value.wellKeyed_list
    intro v hv
    rcases List.mem_map.1 hv with ⟨c, hc, rfl⟩
    exact hitems c hc
  · intro items
    rw [content]
    rfl
  · intro items tag hseq hmap
    rw [content]
    · exact wellKeyed_of_scalarContent tag none
    · exact hseq
    · exact hmap
  · intro pairs hpairs
    rw [content]
    exact wellKeyed_of_mappingContent hpairs
  · intro pairs
    rw [content]
    rfl
  · intro pairs tag hmap hseq
    rw [content]
    · exact wellKeyed_of_scalarContent tag (scalarText?.textOf pairs)
    · exact hmap
    · exact hseq
  -- The pairs of a mapping are those that it merges and its own.
  · intro pairs hsplit ps h
    rw [mergedPairs] at h
    rcases Result.bind_eq_ok_iff.1 h with ⟨parts, hparts, h⟩
    cases h
    exact hsplit parts hparts
  · intro ps h
    rw [splitPairs] at h
    cases h
    intro p hp
    cases hp
  · intro k rest hmerge tag pairs hrest hmerged ps h
    simp only [splitPairs, hmerge, if_true, Result.bind_eq_ok_iff] at h
    rcases h with ⟨front, hfront, parts, hparts, h⟩
    cases h
    rw [List.append_assoc]
    exact List.forall_mem_append.2 ⟨hmerged front hfront, hrest parts hparts⟩
  · intro k rest hmerge tag items hrest hmerged ps h
    simp only [splitPairs, hmerge, if_true, Result.bind_eq_ok_iff] at h
    rcases h with ⟨front, hfront, parts, hparts, h⟩
    cases h
    rw [List.append_assoc]
    exact List.forall_mem_append.2 ⟨hmerged front hfront, hrest parts hparts⟩
  · intro k rest hmerge tag text hrest ps h
    simp only [splitPairs, hmerge, if_true, Result.bind_eq_ok_iff] at h
    rcases h with ⟨front, hfront, -⟩
    cases hfront
  · intro k v rest hmerge hv hrest ps h
    simp only [splitPairs, hmerge, Bool.false_eq_true, if_false, Result.bind_eq_ok_iff] at h
    rcases h with ⟨parts, hparts, h⟩
    cases h
    intro p hp
    rcases List.mem_append.1 hp with hp | hp
    · exact hrest parts hparts p (List.mem_append_left _ hp)
    · rcases List.mem_cons.1 hp with rfl | hp
      · exact hv
      · exact hrest parts hparts p (List.mem_append_right _ hp)
  -- The pairs of the mappings in a list come last mapping first.
  · intro ps h
    rw [mergedItems] at h
    cases h
    intro p hp
    cases hp
  · intro rest tag pairs hrest hpairs ps h
    simp only [mergedItems, Result.bind_eq_ok_iff] at h
    rcases h with ⟨front, hfront, others, hothers, h⟩
    cases h
    exact List.forall_mem_append.2 ⟨hrest others hothers, hpairs front hfront⟩
  · intro n rest hother hrest ps h
    rw [mergedItems] at h
    · cases h
    · exact hother
  · intro c hc
    rw [contents] at hc
    cases hc
  · intro n rest hn hrest c hc
    rw [contents] at hc
    rcases List.mem_cons.1 hc with rfl | hc
    · exact hn
    · exact hrest c hc

end Yaml.Node

theorem Yaml.wellKeyed_of_read {text : String} {v : Value} (h : Yaml.read text = .ok v) :
    v.wellKeyed = true := by
  unfold Yaml.read at h
  split at h
  · rename_i n hn
    unfold Node.toValue at h
    split at h
    · cases h
    · cases h
      exact Node.wellKeyed_of_contents.1 n
  · cases h

/-! ## Files -/

-- A document that is loaded from a file holds each key of each of its objects once.
theorem Document.wellKeyed_of_load {name : String} {text : Option String} {document : Value}
    (h : load name text = .ok document) : document.wellKeyed = true := by
  unfold load at h
  split at h
  · cases h
  · rcases Result.bind_eq_ok_iff.1 h with ⟨v, hread, h⟩
    have hv : v.wellKeyed = true := by
      unfold readText at hread
      dsimp only at hread
      split at hread
      · split at hread
        · cases hread
          rename_i hjson
          exact Json.wellKeyed_of_read? hjson
        · cases hread
      · split at hread
        · cases hread
          rename_i hyaml
          exact Yaml.wellKeyed_of_read hyaml
        · cases hread
    split at h
    · cases h
      exact hv
    · cases h

end ApiContract
