import PostFilter.Proofs.Json.Decoding
import PostFilter.Proofs.Json.Reading
import PostFilter.Proofs.Reading.Spells
import PostFilter.Ruleset.Stored

/-!
# Rulesets — storing and loading

What a ruleset is stored as can be read (`Json.parse?_text`), and decoding it gives the ruleset
again, whatever its filter, texts, numbers and bits are, as long as its nesting is within what
decoding allows.

* `Ruleset.load?_store` — loading what was stored gives the ruleset and the time stamp, or, when the
  document is nested too deep, nothing.
-/

namespace PostFilter.Json

open Text

/-! ### Scopes, places and patterns -/

theorem encodes_threadScope : ∀ t : ThreadScope, Encodes decodeThreadScope (ofThreadScope t) t
  | .anywhere | .boardOnly => ⟨rfl, fun levels => (within_zero levels _).symm⟩
  | .thread n => by
      have htagged : Encodes (decodeTagged fun tag levels v =>
          if tag == "thread" then (decodeUInt64 levels v).map ThreadScope.thread else none)
          (ofThreadScope (.thread n)) (.thread n) :=
        encodes_tagged ((encodes_uint64 n).map ThreadScope.thread)
      refine ⟨htagged.plain, fun levels => ?_⟩
      cases levels with
      | zero => exact htagged.reads 0
      | succ levels => exact htagged.reads (levels + 1)

theorem encodes_scope (s : Scope) : Encodes decodeScope (ofScope s) s :=
  encodes_record rfl (by decide) ⟨rfl, rfl, rfl, (encodes_threadScope s.thread).plain, trivial⟩
    fun levels => bind_within ((encodes_string s.board).reads levels)
      (bind_within ((encodes_threadScope s.thread).reads levels) (within_zero levels s).symm)

theorem encodes_place (p : Place) : Encodes decodePlace (ofPlace p) p := by
  have hboard := encodes_option (fun _ => Json.noConfusion) encodes_string p.board
  have hthread := encodes_option (fun _ => Json.noConfusion) encodes_uint64 p.thread
  exact encodes_record rfl (by decide) ⟨rfl, hboard.plain, rfl, hthread.plain, trivial⟩
    fun levels => bind_within (hboard.reads levels)
      (bind_within (hthread.reads levels) (within_zero levels p).symm)

theorem encodes_pattern (p : Pattern) : Encodes decodePattern (ofPattern p) p := by
  refine encodes_record rfl (by decide) ⟨rfl, rfl, rfl, rfl, trivial⟩ fun levels =>
    bind_within ((encodes_string p.source).reads levels)
      (bind_within ((encodes_string p.flags.text).reads levels) ?_)
  rw [Document.read_parts]
  exact (within_zero levels p).symm

/-! ### Ranges and bounds -/

theorem encodes_numberRange (r : NumberRange) : Encodes decodeNumberRange (ofNumberRange r) r :=
  encodes_record rfl (by decide)
    ⟨rfl, (encodes_uint64 r.min).plain, rfl, (encodes_uint64 r.max).plain, trivial⟩
    fun levels => bind_within ((encodes_uint64 r.min).reads levels)
      (bind_within ((encodes_uint64 r.max).reads levels) (within_zero levels r).symm)

theorem encodes_dimensions (d : Dimensions) : Encodes decodeDimensions (ofDimensions d) d :=
  encodes_record rfl (by decide)
    ⟨rfl, (encodes_uint32 d.width).plain, rfl, (encodes_uint32 d.height).plain, trivial⟩
    fun levels => bind_within ((encodes_uint32 d.width).reads levels)
      (bind_within ((encodes_uint32 d.height).reads levels) (within_zero levels d).symm)

theorem encodes_sizeRange (r : SizeRange) : Encodes decodeSizeRange (ofSizeRange r) r :=
  encodes_record rfl (by decide)
    ⟨rfl, (encodes_dimensions r.min).plain, rfl, (encodes_dimensions r.max).plain, trivial⟩
    fun levels => bind_within ((encodes_dimensions r.min).reads levels)
      (bind_within ((encodes_dimensions r.max).reads levels) (within_zero levels r).symm)

theorem encodes_comparison (cmp : Comparison) :
    Encodes decodeComparison (ofString (comparisonTag cmp)) cmp :=
  encodes_tag (by cases cmp <;> rfl)

theorem encodes_imageBound (b : ImageBound) : Encodes decodeImageBound (ofImageBound b) b := by
  have hcmp := encodes_comparison b.cmp
  have hweight := encodes_option (fun _ => Json.noConfusion) encodes_numberRange b.weight
  have hsize := encodes_option (fun _ => Json.noConfusion) encodes_sizeRange b.size
  exact encodes_record rfl (by decide)
    ⟨rfl, hcmp.plain, rfl, hweight.plain, rfl, hsize.plain, trivial⟩
    fun levels => bind_within (hcmp.reads levels) (bind_within (hweight.reads levels)
      (bind_within (hsize.reads levels) (within_zero levels b).symm))

/-! ### Checks -/

/-- The parts of the text of a set, each with the bits that it stands for. -/
def checkParts (cs : Checks) : List (String × UInt8) :=
  (cs.toList.map fun c => (checkTag c, c.bit)) ++ if 128 ≤ cs.bits then [("0x80", 128)] else []

/-- A part stands for its bits; it has neither blanks nor the sign between parts. -/
theorem checkBits?_part {cs : Checks} {part : String × UInt8} (h : part ∈ checkParts cs) :
    checkBits? part.1.toList = some part.2 ∧ part.1.toList ≠ [] ∧
      ∀ c ∈ part.1.toList, Text.isBlank c = false ∧ (c == '|') = false := by
  have hpart : checkBits? part.1.toList = some part.2 ∧ part.1.toList ≠ [] ∧
      (part.1.toList.all fun c => !Text.isBlank c && !(c == '|')) = true := by
    rcases List.mem_append.1 h with h | h
    · obtain ⟨check, -, rfl⟩ := List.mem_map.1 h
      cases check <;> decide
    · split at h
      · rw [List.mem_singleton.1 h]
        decide
      · cases h
  refine ⟨hpart.1, hpart.2.1, fun c hc => ?_⟩
  have hplain := List.all_eq_true.1 hpart.2.2 c hc
  rwa [Bool.and_eq_true, Bool.not_eq_true', Bool.not_eq_true'] at hplain

theorem toList_checksText (cs : Checks) :
    (checksText cs).toList =
      ([' '] ++ '|' :: [' ']).intercalate ((checkParts cs).map fun part => part.1.toList) := by
  have hparts : cs.toList.map checkTag ++ (if 128 ≤ cs.bits then ["0x80"] else []) =
      (checkParts cs).map Prod.fst := by
    rw [checkParts, List.map_append, List.map_map]
    split <;> rfl
  rw [checksText, hparts, String.toList_intercalate, List.map_map]
  rfl

theorem foldl_checkParts_ofNat : ∀ n < 256,
    ((checkParts ⟨UInt8.ofNat n⟩).map Prod.snd).foldl (· ||| ·) 0 = UInt8.ofNat n := by
  decide +kernel

/-- The parts have the bits of the set between them. -/
theorem foldl_checkParts (cs : Checks) :
    ((checkParts cs).map Prod.snd).foldl (· ||| ·) 0 = cs.bits := by
  have hbits := foldl_checkParts_ofNat cs.bits.toNat cs.bits.toNat_lt
  rwa [UInt8.ofNat_toNat] at hbits

theorem map_trimList_checksText {cs : Checks} (h : checkParts cs ≠ []) :
    (splitAll (· == '|') (checksText cs).toList).map trimList =
      (checkParts cs).map fun part => part.1.toList := by
  have hparts : ∀ part ∈ (checkParts cs).map fun part => part.1.toList,
      part ≠ [] ∧ ∀ c ∈ part, Text.isBlank c = false ∧ (c == '|') = false := by
    intro part hpart
    obtain ⟨entry, hentry, rfl⟩ := List.mem_map.1 hpart
    exact (checkBits?_part hentry).2
  have hne : (checkParts cs).map (fun part => part.1.toList) ≠ [] :=
    fun hnil => h (List.map_eq_nil_iff.1 hnil)
  rw [toList_checksText]
  have hspace : ∀ c ∈ [' '], Text.isBlank c = true ∧ (c == '|') = false :=
    List.forall_mem_singleton.2 ⟨rfl, rfl⟩
  exact map_trimList_splitAll rfl hspace hspace hne hparts (List.forall_mem_nil _)

theorem trimList_checksText_ne_nil {cs : Checks} (h : checkParts cs ≠ []) :
    trimList (checksText cs).toList ≠ [] := by
  obtain ⟨part, parts, hparts⟩ := List.exists_cons_of_ne_nil h
  obtain ⟨-, hne, hplain⟩ := checkBits?_part (hparts ▸ List.mem_cons_self : part ∈ checkParts cs)
  obtain ⟨c, name, hname⟩ := List.exists_cons_of_ne_nil hne
  have hblank : Text.isBlank c = false := (hplain c (hname ▸ List.mem_cons_self)).1
  refine trimList_ne_nil (c := c) ?_ hblank
  rw [toList_checksText, hparts, List.map_cons, hname]
  cases parts with
  | nil => exact List.mem_cons_self
  | cons next parts => exact List.mem_cons_self

/-- A set of checks is read from its text, also with the bit that has no name. -/
theorem checksOfText?_checksText (cs : Checks) : checksOfText? (checksText cs) = some cs := by
  have hbits := foldl_checkParts cs
  by_cases hnil : checkParts cs = []
  · rw [hnil] at hbits
    rw [checksOfText?, toList_checksText, hnil]
    exact congrArg (fun bits => some (Checks.mk bits)) hbits
  · have hmap := mapM_eq_some_map fun part (hpart : part ∈ checkParts cs) =>
      (checkBits?_part hpart).1
    rw [← map_trimList_checksText hnil, List.mapM_map] at hmap
    have htrim : (trimList (checksText cs).toList).isEmpty = false :=
      List.isEmpty_eq_false_iff.2 (trimList_checksText_ne_nil hnil)
    change (if (trimList (checksText cs).toList).isEmpty then _ else
      Option.map _ (List.mapM (checkBits? ∘ trimList) _)) = _
    rw [htrim, hmap, Option.map_some, hbits]
    rfl

theorem encodes_checks (cs : Checks) : Encodes decodeChecks (ofString (checksText cs)) cs := by
  refine ⟨rfl, fun levels => Eq.trans ?_ (within_zero levels cs).symm⟩
  exact checksOfText?_checksText cs

/-! ### Spells -/

theorem encodes_argument : ∀ a : Argument, Encodes decodeArgument (ofArgument a) a
  | .text t => encodes_tagged ((encodes_string t).map Argument.text)
  | .pattern p => encodes_tagged ((encodes_pattern p).map Argument.pattern)
  | .ranges rs => encodes_tagged ((encodes_list encodes_numberRange rs).map Argument.ranges)
  | .image b => encodes_tagged ((encodes_imageBound b).map Argument.image)
  | .checks cs => encodes_tagged ((encodes_checks cs).map Argument.checks)
  | .signature h => encodes_tagged ((encodes_uint64 h).map Argument.signature)

theorem ofArgument_ne_null (a : Argument) : ofArgument a ≠ .null := by
  cases a <;> exact Json.noConfusion

theorem encodes_spell (s : Spell) : Encodes decodeSpell (ofSpell s) s := by
  have hkind : Encodes (decodeTag Kind.ofWord?) (ofString s.kind.word) s.kind :=
    encodes_tag (Document.ofWord?_word s.kind)
  have hargument := encodes_option ofArgument_ne_null encodes_argument s.argument
  have hscope := encodes_option (fun _ => Json.noConfusion) encodes_scope s.scope
  exact encodes_record rfl (by decide)
    ⟨rfl, hkind.plain, rfl, hargument.plain, rfl, hscope.plain, rfl, trivial, trivial⟩
    fun levels => bind_within (hkind.reads levels) (bind_within (hargument.reads levels)
      (bind_within (hscope.reads levels)
        (bind_within ((encodes_bool s.negated).reads levels) (within_zero levels s).symm)))

/-! ### Filters -/

theorem encodes_joiner (j : Joiner) : Encodes decodeJoiner (ofString (joinerTag j)) j :=
  encodes_tag (by cases j <;> rfl)

/-- A clause is decoded like any tagged value. -/
theorem encodes_clause_of_tag {tag : String} {v : Json} {c : Clause}
    (h : Encodes (fun levels v =>
      if tag == "leaf" then (decodeSpell levels v).map Clause.spell
      else if tag == "group" then (decodeGroup levels v).map Clause.group
      else none) v c) : Encodes decodeClause (ofFields [(tag, v)]) c := by
  have htagged : Encodes (decodeTagged fun tag levels v =>
      if tag == "leaf" then (decodeSpell levels v).map Clause.spell
      else if tag == "group" then (decodeGroup levels v).map Clause.group
      else none) (ofFields [(tag, v)]) c := encodes_tagged h
  refine ⟨htagged.plain, fun levels => Eq.trans ?_ (htagged.reads levels)⟩
  rw [decodeClause.eq_def]
  cases levels <;> rfl

/-- A group of the values of its fields. -/
def groupOfFields? (levels : Nat) : List (Option Json) → Option Group
  | [negated, members] => do
    return ⟨← required decodeBool levels negated,
      ← required (decodeList decodeMember) levels members⟩
  | _ => none

/-- A group is decoded like any record. -/
theorem encodes_group_of_items {vs : List Json} {members : List Member}
    (h : vs.Forall₂ (Encodes decodeMember) members) (negated : Bool) :
    Encodes decodeGroup (ofFields [("negated", .bool negated), ("children", .array vs)])
      ⟨negated, members⟩ := by
  have hrecord : Encodes (decodeRecord ["negated", "children"] groupOfFields?)
      (ofFields [("negated", .bool negated), ("children", .array vs)]) ⟨negated, members⟩ := by
    refine encodes_record rfl (by decide)
      ⟨rfl, trivial, rfl, (encodes_items h).plain, trivial⟩ fun levels => ?_
    rw [List.map_cons, List.map_singleton, groupOfFields?]
    exact bind_within ((encodes_bool negated).reads levels)
      (bind_within ((encodes_items h).reads levels) (within_zero levels _).symm)
  refine ⟨hrecord.plain, fun levels => Eq.trans ?_ (hrecord.reads levels)⟩
  rw [decodeGroup.eq_def]
  rcases levels with _ | _ | levels
  · rfl
  · rfl
  · change (vs.mapM fun item => decodeMember (levels + 1) item).map _ =
      (vs.mapM fun item => decodeMember (levels + 1) item).bind _
    exact Option.map_eq_bind

/-- A member of the values of its fields. -/
def memberOfFields? (levels : Nat) : List (Option Json) → Option Member
  | [node, op] => do
    return ⟨← required decodeClause levels node, ← required decodeJoiner levels op⟩
  | _ => none

/-- A member of its parts, if both are there. -/
def memberOfParts? : Option Clause → Option Joiner → Option Member
  | some c, some j => some ⟨c, j⟩
  | _, _ => none

/-- A member is decoded like any record. -/
theorem encodes_member_of_clause {v : Json} {c : Clause} (h : Encodes decodeClause v c)
    (j : Joiner) :
    Encodes decodeMember (ofFields [("node", v), ("op", ofString (joinerTag j))]) ⟨c, j⟩ := by
  have hrecord : Encodes (decodeRecord ["node", "op"] memberOfFields?)
      (ofFields [("node", v), ("op", ofString (joinerTag j))]) ⟨c, j⟩ :=
    encodes_record rfl (by decide) ⟨rfl, h.plain, rfl, rfl, trivial⟩
      fun levels => bind_within (h.reads levels)
        (bind_within ((encodes_joiner j).reads levels) (within_zero levels _).symm)
  refine ⟨hrecord.plain, fun levels => Eq.trans ?_ (hrecord.reads levels)⟩
  rw [decodeMember.eq_def]
  cases levels with
  | zero => rfl
  | succ levels =>
      have hjoiner : decodeJoiner (levels + 1) (ofString (joinerTag j)) = some j :=
        ((encodes_joiner j).reads levels).trans (within_zero levels j)
      change memberOfParts? (decodeClause (levels + 1) v)
          (decodeJoiner (levels + 1) (ofString (joinerTag j))) =
        (decodeClause (levels + 1) v).bind fun c =>
          (decodeJoiner (levels + 1) (ofString (joinerTag j))).bind fun j => some (Member.mk c j)
      rw [hjoiner]
      cases decodeClause (levels + 1) v <;> rfl

mutual

theorem encodes_clause : ∀ c : Clause, Encodes decodeClause (ofClause c) c
  | .spell s => encodes_clause_of_tag ((encodes_spell s).map Clause.spell)
  | .group g => encodes_clause_of_tag ((encodes_group g).map Clause.group)

theorem encodes_group : ∀ g : Group, Encodes decodeGroup (ofGroup g) g
  | ⟨negated, members⟩ => encodes_group_of_items (encodes_members members) negated

theorem encodes_members : ∀ members : List Member,
    (ofMembers members).Forall₂ (Encodes decodeMember) members
  | [] => .nil
  | ⟨c, j⟩ :: members =>
      .cons (encodes_member_of_clause (encodes_clause c) j) (encodes_members members)

end

/-! ### Rulesets -/

theorem encodes_replacement (r : Replacement) :
    Encodes decodeReplacement (ofReplacement r) r := by
  have hscope := encodes_option (fun _ => Json.noConfusion) encodes_scope r.scope
  have hpattern := encodes_pattern r.pattern
  exact encodes_record rfl (by decide) ⟨rfl, hscope.plain, rfl, hpattern.plain, rfl, rfl, trivial⟩
    fun levels => bind_within (hscope.reads levels) (bind_within (hpattern.reads levels)
      (bind_within ((encodes_string r.template).reads levels) (within_zero levels r).symm))

theorem encodes_stored (s : StoredRuleset) : Encodes decodeStored (ofStored s) s := by
  obtain ⟨timestamp, fingerprint, filter, incoming, outgoing, place⟩ := s
  have hfingerprint := encodes_uint64 fingerprint
  have htimestamp := encodes_uint64 timestamp
  have hfilter := encodes_option (fun ⟨_, _⟩ => Json.noConfusion) encodes_group filter
  have hincoming := encodes_list encodes_replacement incoming
  have houtgoing := encodes_list encodes_replacement outgoing
  have hplace := encodes_place place
  exact encodes_record rfl (by decide)
    ⟨rfl, hfingerprint.plain, rfl, htimestamp.plain, rfl, hfilter.plain, rfl, hincoming.plain, rfl,
      houtgoing.plain, rfl, hplace.plain, trivial⟩
    fun levels => bind_within (htimestamp.reads levels) (bind_within (hfingerprint.reads levels)
      (bind_within (hfilter.reads levels) (bind_within (hincoming.reads levels)
        (bind_within (houtgoing.reads levels)
          (bind_within (hplace.reads levels) (within_zero levels _).symm)))))

end PostFilter.Json

namespace PostFilter.Ruleset

/-- Loading what was stored gives the ruleset, if its document is not nested too deep. -/
theorem load?_store (r : Ruleset) (timestamp : UInt64) :
    StoredRuleset.load? (r.store timestamp) =
      if (Json.ofStored ⟨timestamp, r⟩).depth < Json.nestLimit then some ⟨timestamp, r⟩
      else none := by
  have hstored := Json.encodes_stored ⟨timestamp, r⟩
  rw [StoredRuleset.load?, store, Json.parse?_text hstored.plain]
  exact (hstored.reads 127).trans (if_congr Nat.lt_succ_iff.symm rfl rfl)

end PostFilter.Ruleset
