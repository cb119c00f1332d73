import Mathlib.Data.List.Forall2
import PostFilter.Json.Decode
import PostFilter.Json.Shape
import PostFilter.Proofs.Text.Numeral

/-!
# JSON — decoding undoes encoding

`Encodes decode v a` says that `v` is what `a` is written as: it is plain, and decoding it with one
level and some more left gives `a` exactly if the others are as many as arrays and objects are
nested in `v`. So a decoder fails on an encoded value for want of levels only, and how many it wants
is the depth of the value.

There is one lemma for each decoder of a scalar, and one for each way to put decoders together:
options, lists, records and tagged values.
-/

namespace PostFilter.Json

open Text

variable {α β : Type}

/-! ### Enough levels -/

/-- A value, if `depth` levels are there. -/
def within (depth levels : Nat) (a : α) : Option α := if depth ≤ levels then some a else none

theorem within_zero (levels : Nat) (a : α) : within 0 levels a = some a := if_pos (Nat.zero_le _)

theorem map_within (f : α → β) (depth levels : Nat) (a : α) :
    (within depth levels a).map f = within depth levels (f a) := by
  unfold within
  split <;> rfl

/-- Two values are there if the levels are enough for the deeper one. -/
theorem bind_within {x : Option α} {next : α → Option β} {depth depth' levels : Nat} {a : α} {b : β}
    (hx : x = within depth levels a) (hnext : next a = within depth' levels b) :
    x.bind next = within (max depth depth') levels b := by
  rw [hx]
  unfold within at *
  by_cases h : depth ≤ levels
  · rw [if_pos h, Option.bind_some, hnext]
    exact if_congr (by omega) rfl rfl
  · rw [if_neg h, Option.bind_none, if_neg (by omega)]

/-- One level is entered. -/
theorem nested_within {inner : Decoder α} {v : Json} {depth : Nat} {a : α}
    (h : ∀ levels, inner (levels + 1) v = within depth levels a) :
    ∀ levels, nested inner (levels + 1) v = within (depth + 1) levels a
  | 0 => rfl
  | levels + 1 => by
      rw [nested, h, within, within]
      exact if_congr (by omega) rfl rfl

/-- A value is what a decoder reads as `a`, and it is read if there are levels enough. -/
structure Encodes (decode : Decoder α) (v : Json) (a : α) : Prop where
  plain : v.IsPlain
  reads : ∀ levels, decode (levels + 1) v = within v.depth levels a

/-! ### Scalars -/

theorem encodes_bool (b : Bool) : Encodes decodeBool (.bool b) b :=
  ⟨trivial, fun levels => (within_zero levels b).symm⟩

theorem encodes_string (s : String) : Encodes decodeString (ofString s) s :=
  ⟨rfl, fun levels => (within_zero levels s).symm⟩

theorem decodeNat_ofNat {bound n : Nat} (h : n < bound) (levels : Nat) :
    decodeNat bound levels (ofNat n) = some n := by
  rw [ofNat, decodeNat, decimalValue?_decimalDigits]
  exact Option.filter_some_pos (decide_eq_true h)

theorem encodes_uint64 (n : UInt64) : Encodes decodeUInt64 (ofUInt64 n) n := by
  refine ⟨⟨n.toNat, rfl⟩, fun levels => ?_⟩
  rw [decodeUInt64, ofUInt64, decodeNat_ofNat n.toNat_lt, Option.map_some, UInt64.ofNat_toNat]
  exact (within_zero levels n).symm

theorem encodes_uint32 (n : UInt32) : Encodes decodeUInt32 (ofNat n.toNat) n := by
  refine ⟨⟨n.toNat, rfl⟩, fun levels => ?_⟩
  rw [decodeUInt32, decodeNat_ofNat n.toNat_lt, Option.map_some, UInt32.ofNat_toNat]
  exact (within_zero levels n).symm

/-! ### Options and lists -/

theorem encodes_option {decode : Decoder α} {encode : α → Json} (hne : ∀ a, encode a ≠ .null)
    (h : ∀ a, Encodes decode (encode a) a) :
    ∀ a : Option α, Encodes (decodeOption decode) (ofOption encode a) a
  | none => ⟨trivial, fun levels => (within_zero levels none).symm⟩
  | some a => by
      refine ⟨(h a).plain, fun levels => ?_⟩
      have hreads := (h a).reads levels
      rw [ofOption, decodeOption, hreads, map_within]
      · exact hne a

theorem itemsPlain_of_forall₂ {decode : Decoder α} : ∀ {vs : List Json} {as : List α},
    vs.Forall₂ (Encodes decode) as → ItemsPlain vs
  | _, _, .nil => trivial
  | _, _, .cons h hs => ⟨h.plain, itemsPlain_of_forall₂ hs⟩

/-- The items of an array are read if there are levels enough for the deepest one. -/
theorem mapM_within {decode : Decoder α} (levels : Nat) : ∀ {vs : List Json} {as : List α},
    vs.Forall₂ (Encodes decode) as →
    vs.mapM (decode (levels + 1)) = within (itemsDepth vs) levels as
  | _, _, .nil => (within_zero levels []).symm
  | v :: vs, a :: as, .cons h hs => by
      have htail : (vs.mapM (decode (levels + 1))).bind (fun as => some (a :: as)) =
          within (itemsDepth vs) levels (a :: as) := by
        rw [mapM_within levels hs]
        exact Option.map_eq_bind.symm.trans (map_within (a :: ·) _ _ as)
      rw [List.mapM_cons]
      exact bind_within (h.reads levels) htail

theorem encodes_items {decode : Decoder α} {vs : List Json} {as : List α}
    (h : vs.Forall₂ (Encodes decode) as) : Encodes (decodeList decode) (.array vs) as :=
  ⟨itemsPlain_of_forall₂ h, nested_within fun levels => mapM_within levels h⟩

theorem encodes_list {decode : Decoder α} {encode : α → Json}
    (h : ∀ a, Encodes decode (encode a) a) (as : List α) :
    Encodes (decodeList decode) (.array (as.map encode)) as :=
  encodes_items (List.forall₂_map_left_iff.2 (List.forall₂_same.2 fun a _ => h a))

/-! ### Records and tagged values -/

theorem fieldValues_eq_nil {name : String} : ∀ {fields : List (String × Json)},
    name ∉ fields.map Prod.fst →
    fieldValues name (fields.map fun (key, value) => (some key, value)) = []
  | [], _ => rfl
  | (key, value) :: fields, h => by
      rw [List.map_cons, List.mem_cons, not_or] at h
      have hne : (some key == some name) = false := by
        rw [beq_eq_false_iff_ne]
        exact fun he => h.1 (Option.some.inj he).symm
      have hrest := fieldValues_eq_nil h.2
      rw [fieldValues] at hrest
      rw [List.map_cons, fieldValues, List.filterMap_cons]
      simp only [hne, hrest]
      rfl

/-- A field is found where its name stands once. -/
theorem fieldValues_of_mem : ∀ {fields : List (String × Json)} {f : String × Json},
    (fields.map Prod.fst).Nodup → f ∈ fields →
    fieldValues f.1 (fields.map fun (key, value) => (some key, value)) = [f.2]
  | (key, value) :: fields, f, hnodup, hf => by
      rw [List.map_cons, List.nodup_cons] at hnodup
      rw [List.map_cons, fieldValues, List.filterMap_cons]
      rcases List.mem_cons.1 hf with rfl | hf
      · have hrest := fieldValues_eq_nil hnodup.1
        rw [fieldValues] at hrest
        simp only [beq_self_eq_true, if_true, hrest]
      · have hrest := fieldValues_of_mem hnodup.2 hf
        have hne : (some key == some f.1) = false := by
          rw [beq_eq_false_iff_ne]
          intro he
          exact hnodup.1 (List.mem_map.2 ⟨f, hf, (Option.some.inj he).symm⟩)
        rw [fieldValues] at hrest
        simp only [hne, hrest]
        rfl

theorem mapM_eq_some_map {γ : Type} {g : β → Option γ} {f : α → β} {k : α → γ} : ∀ {as : List α},
    (∀ a ∈ as, g (f a) = some (k a)) → (as.map f).mapM g = some (as.map k)
  | [], _ => rfl
  | a :: as, h => by
      have htail := mapM_eq_some_map fun b hb => h b (List.mem_cons_of_mem a hb)
      rw [List.map_cons, List.mapM_cons, h a List.mem_cons_self, htail]
      rfl

/-- The fields of a record are found under their names. -/
theorem recordFields?_ofFields {fields : List (String × Json)}
    (hnodup : (fields.map Prod.fst).Nodup) :
    recordFields? (fields.map Prod.fst) (ofFields fields) =
      some (fields.map fun f => some f.2) := by
  have hkeys : ((fields.map fun (key, value) => (some key, value)).any fun f => f.1.isNone) =
      false := by
    rw [List.any_map, List.any_eq_false]
    exact fun _ _ => Bool.false_ne_true
  rw [ofFields, recordFields?, hkeys]
  refine mapM_eq_some_map fun f hf => ?_
  rw [fieldValues_of_mem hnodup hf]

theorem encodes_record {names : List String} {inner : Nat → List (Option Json) → Option α}
    {fields : List (String × Json)} {a : α} (hnames : fields.map Prod.fst = names)
    (hnodup : names.Nodup) (hplain : (ofFields fields).IsPlain)
    (h : ∀ levels, inner (levels + 1) (fields.map fun f => some f.2) =
      within (fieldsDepth (fields.map fun (key, value) => (some key, value))) levels a) :
    Encodes (decodeRecord names inner) (ofFields fields) a := by
  refine ⟨hplain, nested_within fun levels => ?_⟩
  subst hnames
  rw [recordFields?_ofFields hnodup]
  exact h levels

theorem encodes_tag {tag? : String → Option α} {tag : String} {a : α} (h : tag? tag = some a) :
    Encodes (decodeTag tag?) (ofString tag) a := by
  refine ⟨rfl, fun levels => ?_⟩
  rw [ofString, decodeTag, h]
  exact (within_zero levels a).symm

theorem decodeTagged_ofFields {inner : String → Decoder α} {tag : String} {v : Json} :
    ∀ levels, decodeTagged inner levels (ofFields [(tag, v)]) = nested (inner tag) levels v
  | 0 | 1 | _ + 2 => rfl

theorem encodes_tagged {inner : String → Decoder α} {tag : String} {v : Json} {a : α}
    (h : Encodes (inner tag) v a) : Encodes (decodeTagged inner) (ofFields [(tag, v)]) a := by
  refine ⟨⟨rfl, h.plain, trivial⟩, fun levels => ?_⟩
  have hdepth : (ofFields [(tag, v)]).depth = v.depth + 1 :=
    congrArg (· + 1) (Nat.max_zero v.depth)
  rw [hdepth, decodeTagged_ofFields]
  exact nested_within h.reads levels

/-- A decoder that goes on with what it has read. -/
theorem Encodes.map {decode : Decoder α} {v : Json} {a : α} (h : Encodes decode v a) (f : α → β) :
    Encodes (fun levels v => (decode levels v).map f) v (f a) := by
  refine ⟨h.plain, fun levels => ?_⟩
  rw [h.reads, map_within]

end PostFilter.Json
