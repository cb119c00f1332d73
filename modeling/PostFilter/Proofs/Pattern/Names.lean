import PostFilter.Pattern.Basic
import PostFilter.Proofs.Accepted.Arguments

/-!
# Patterns — the names of captures

A capture that was read has a proper name (`isName_of_mem_groups`). The names are followed from the
reader, whose state holds them in its parts and in what is open around these
(`TreeState.NamesValid`), through the tree to the expression.
-/

namespace PostFilter.Pattern
open Document Text

/-- Whether characters can stand in a capture name, at its front or, with `first` false, behind
that. -/
def AreNameChars (first : Bool) : List Char → Prop
  | [] => True
  | c :: rest => isNameChar first c = true ∧ ∀ d ∈ rest, isNameChar false d = true

/-- Whether a text is a capture name. -/
def IsName (name : String) : Prop := name.toList ≠ [] ∧ AreNameChars true name.toList

theorem AreNameChars.mem {first : Bool} : ∀ {s : List Char}, AreNameChars first s → ∀ c ∈ s,
    isNameChar first c = true ∨ isNameChar false c = true
  | [], _ => List.forall_mem_nil _
  | _ :: _, h => List.forall_mem_cons.2 ⟨Or.inl h.1, fun d hd => Or.inr (h.2 d hd)⟩

/-- A character that can stand nowhere in a name stands in none. -/
theorem IsName.beq_eq_false {name : String} (h : IsName name) {c : Char}
    (hfirst : isNameChar true c = false) (hlater : isNameChar false c = false) :
    ∀ d ∈ name.toList, (d == c) = false := by
  intro d hd
  refine beq_eq_false_iff_ne.2 ?_
  rintro rfl
  rcases h.2.mem d hd with htrue | htrue
  · rw [hfirst] at htrue
    cases htrue
  · rw [hlater] at htrue
    cases htrue

/-! ### Trees -/

/-- Whether the name of a capturing group, if it has one, is made of characters of names. -/
def GroupKind.NameValid : GroupKind → Prop
  | .capture _ name => ∀ n ∈ name, IsName n
  | .plain _ => True

mutual

/-- Whether all captures of a tree have valid names. -/
def Tree.NamesValid : Tree → Prop
  | .repetition _ _ _ sub => sub.NamesValid
  | .group kind sub => kind.NameValid ∧ sub.NamesValid
  | .alternation branches => Tree.AllNamesValid branches
  | .concat parts => Tree.AllNamesValid parts
  | _ => True

/-- Whether all captures of trees do. -/
def Tree.AllNamesValid : List Tree → Prop
  | [] => True
  | tree :: rest => tree.NamesValid ∧ Tree.AllNamesValid rest

end

theorem Tree.allNamesValid_iff : ∀ {trees : List Tree},
    Tree.AllNamesValid trees ↔ ∀ tree ∈ trees, tree.NamesValid
  | [] => by simp [Tree.AllNamesValid]
  | tree :: rest => by rw [Tree.AllNamesValid, List.forall_mem_cons, Tree.allNamesValid_iff]

theorem Tree.namesValid_ofParts : ∀ {parts : List Tree}, (∀ tree ∈ parts, tree.NamesValid) →
    (Tree.ofParts parts).NamesValid
  | [], _ => trivial
  | [tree], h => h tree (List.mem_singleton_self tree)
  | _ :: _ :: _, h => Tree.allNamesValid_iff.2 h

/-! ### The reader -/

/-- Whether what waits holds only valid names. -/
def TreeFrame.NamesValid : TreeFrame → Prop
  | .group outer kind _ => (∀ tree ∈ outer, tree.NamesValid) ∧ kind.NameValid
  | .branches done => ∀ tree ∈ done, tree.NamesValid

namespace TreeState

/-- Whether the parts in hand and what waits around them hold only valid names. -/
structure NamesValid (st : TreeState) : Prop where
  parts : ∀ tree ∈ st.parts, tree.NamesValid
  stack : ∀ frame ∈ st.stack, frame.NamesValid

variable {st : TreeState}

theorem NamesValid.sequence (h : st.NamesValid) : st.sequence.NamesValid :=
  Tree.namesValid_ofParts fun tree ht => h.parts tree (List.mem_reverse.1 ht)

theorem NamesValid.push (h : st.NamesValid) {tree : Tree} (ht : tree.NamesValid) :
    (st.push tree).NamesValid := ⟨List.forall_mem_cons.2 ⟨ht, h.parts⟩, h.stack⟩

theorem NamesValid.endBranch (h : st.NamesValid) : st.endBranch.NamesValid := by
  rw [TreeState.endBranch]
  split
  · rename_i done below hstack
    have hframes := h.stack
    rw [hstack, List.forall_mem_cons] at hframes
    refine ⟨List.forall_mem_nil _, List.forall_mem_cons.2 ⟨?_, hframes.2⟩⟩
    exact List.forall_mem_cons.2 ⟨h.sequence, hframes.1⟩
  · exact ⟨List.forall_mem_nil _,
      List.forall_mem_cons.2 ⟨List.forall_mem_singleton.2 h.sequence, h.stack⟩⟩

theorem NamesValid.closeBranches (h : st.NamesValid) :
    st.closeBranches.1.NamesValid ∧ ∀ frame ∈ st.closeBranches.2, frame.NamesValid := by
  rw [TreeState.closeBranches]
  split
  · rename_i done below hstack
    have hframes := h.stack
    rw [hstack, List.forall_mem_cons] at hframes
    refine ⟨Tree.allNamesValid_iff.2 fun tree ht => ?_, hframes.2⟩
    exact List.forall_mem_cons.2 ⟨h.sequence, hframes.1⟩ tree (List.mem_reverse.1 ht)
  · exact ⟨h.sequence, h.stack⟩

theorem NamesValid.closeGroup (h : st.NamesValid) : Yields st.closeGroup NamesValid := by
  obtain ⟨htree, hframes⟩ := h.closeBranches
  rw [TreeState.closeGroup]
  split
  · rename_i tree outer kind spaced below hclose
    rw [hclose] at htree hframes
    rw [List.forall_mem_cons] at hframes
    exact yields_ok ⟨List.forall_mem_cons.2 ⟨⟨hframes.1.2, htree⟩, hframes.1.1⟩, hframes.2⟩
  · exact yields_error _

theorem NamesValid.finish (h : st.NamesValid) : Yields st.finish Tree.NamesValid := by
  obtain ⟨htree, -⟩ := h.closeBranches
  rw [TreeState.finish]
  split
  · rename_i hclose
    rw [hclose] at htree
    exact yields_ok htree
  · exact yields_error _

theorem NamesValid.openGroup (h : st.NamesValid) {kind : GroupKind} (hkind : kind.NameValid)
    (spaced : Bool) : (st.openGroup kind spaced).NamesValid :=
  ⟨List.forall_mem_nil _, List.forall_mem_cons.2 ⟨⟨h.parts, hkind⟩, h.stack⟩⟩

theorem NamesValid.openCapture (h : st.NamesValid) {name : Option String}
    (hname : ∀ n ∈ name, IsName n) : (st.openCapture name).NamesValid :=
  ⟨List.forall_mem_nil _, List.forall_mem_cons.2 ⟨⟨h.parts, hname⟩, h.stack⟩⟩

theorem NamesValid.repeatLast (h : st.NamesValid) : Yields st.repeatLast fun last =>
    last.1.NamesValid ∧ ∀ tree ∈ last.2, tree.NamesValid := by
  rw [TreeState.repeatLast]
  split
  · exact yields_error _
  · exact yields_error _
  · exact yields_error _
  · rename_i hparts
    have hall := h.parts
    rw [hparts, List.forall_mem_cons] at hall
    exact yields_ok hall

end TreeState

/-- A name is read character by character, and each is one of a name. -/
theorem yields_readNameChars (first : Bool) (s : List Char) :
    Yields (readNameChars first s) fun r => AreNameChars first r.value := by
  fun_induction readNameChars first s with
  | case1 => exact yields_error _
  | case2 => exact yields_ok trivial
  | case3 => exact yields_error _
  | case4 first c rest hclose hname ih =>
      rw [Bool.not_eq_true, Bool.not_eq_false'] at hname
      exact yields_map ih fun r hr => ⟨hname, fun d hd => (hr.mem d hd).elim id id⟩

theorem yields_readName (taken : List String) (s : List Char) :
    Yields (readName taken s) fun r => IsName r.value := by
  rw [readName]
  refine yields_bind (yields_readNameChars true s) fun chars hchars => ?_
  dsimp only
  split
  · exact yields_error _
  · rename_i hne
    have hname : IsName (String.ofList chars.value) := by
      rw [IsName, String.toList_ofList]
      exact ⟨List.isEmpty_eq_false_iff.1 (Bool.not_eq_true _ ▸ hne), hchars⟩
    split
    · exact yields_error _
    · exact yields_ok hname

theorem yields_readGroup {st : TreeState} (h : st.NamesValid) (s : List Char) :
    Yields (readGroup st s) fun r => r.value.NamesValid := by
  rw [readGroup]
  dsimp only
  split
  · exact yields_error _
  · split
    · rename_i mark _
      refine yields_bind (yields_readName _ _) fun name hname => yields_ok ?_
      exact h.openCapture fun n hn => by cases hn; exact hname
    · split
      · exact yields_ok (h.openCapture fun n hn => by cases hn)
      · split
        · exact yields_error _
        · refine yields_bind (yields_any _) fun r _ => ?_
          split
          · split
            · exact yields_error _
            · exact yields_ok ⟨List.forall_mem_cons.2 ⟨trivial, h.parts⟩, h.stack⟩
          · refine yields_ok (h.openGroup ?_ _)
            trivial

/-- A class has no captures. -/
theorem yields_readClassFrom (spaced : Bool) (stack : List ClassFrame) (items : List ClassItem)
    (s : List Char) : Yields (readClassFrom spaced stack items s) fun r => r.value.NamesValid := by
  fun_induction readClassFrom spaced stack items s
  all_goals first
    | exact yields_error _
    | exact yields_ok trivial
    | (rename_i ih; exact yields_map ih fun _ hr => hr)

theorem yields_readClass (spaced : Bool) (s : List Char) :
    Yields (readClass spaced s) fun r => r.value.NamesValid := by
  rw [readClass]
  refine yields_bind (yields_any _) fun opening _ => ?_
  exact yields_bind (yields_readClassFrom _ _ _ _) fun r hr => yields_ok hr

theorem yields_readPrimitive (spaced : Bool) (c : Char) (rest : List Char) :
    Yields (readPrimitive spaced c rest) fun r => r.value.NamesValid := by
  rw [readPrimitive.eq_def]
  split
  · refine yields_map (yields_any _) fun r _ => ?_
    obtain ⟨primitive, _, _⟩ := r
    cases primitive <;> trivial
  · exact yields_ok trivial
  · exact yields_ok trivial
  · exact yields_ok trivial
  · exact yields_ok trivial

/-- **A step keeps the names valid.** -/
theorem yields_step {st : TreeState} (h : st.NamesValid) (c : Char) (rest : List Char) :
    Yields (st.step c rest) fun r => r.value.NamesValid := by
  have hrepeat (count : Repeat) {last : Tree × List Tree}
      (hlast : last.1.NamesValid ∧ ∀ tree ∈ last.2, tree.NamesValid) :
      (st.withRepeat count last).NamesValid :=
    ⟨List.forall_mem_cons.2 hlast, h.stack⟩
  rw [TreeState.step.eq_def]
  split
  · exact yields_readGroup h rest
  · exact yields_bind h.closeGroup fun st' h' => yields_ok h'
  · exact yields_ok h.endBranch
  · exact yields_bind (yields_readClass _ rest) fun r hr => yields_ok (h.push hr)
  · refine yields_bind h.repeatLast fun last hlast => ?_
    exact yields_bind (yields_any _) fun count _ => yields_ok (hrepeat _ hlast)
  · split
    · exact yields_bind h.repeatLast fun last hlast => yields_ok (hrepeat _ hlast)
    · exact yields_bind (yields_readPrimitive _ c rest) fun r hr => yields_ok (h.push hr)

/-- What is read from a state with valid names has valid names. -/
theorem yields_readTreeFrom {st : TreeState} (h : st.NamesValid) (s : List Char) :
    Yields (readTreeFrom st s) Tree.NamesValid := by
  fun_induction readTreeFrom st s with
  | case1 => exact h.finish
  | case2 => exact yields_error _
  | case3 st s c _ _ r hr _ ih => exact ih (yields_step h c.value c.rest r hr)

theorem yields_readTree (spaced : Bool) (s : List Char) :
    Yields (readTree spaced s) Tree.NamesValid := by
  rw [readTree]
  refine yields_bind (yields_readTreeFrom ⟨List.forall_mem_nil _, List.forall_mem_nil _⟩ s)
    fun tree htree => ?_
  split
  · exact yields_error _
  · exact yields_ok htree

/-! ### Expressions -/

/-- Whether all captures of an expression have valid names. -/
def Expr.NamesValid (expr : Expr) : Prop := ∀ p ∈ expr.captures, ∀ n ∈ p.2, IsName n

/-- Whether all captures of expressions do. -/
def Expr.AllNamesValid (exprs : List Expr) : Prop :=
  ∀ p ∈ Expr.capturesOf exprs, ∀ n ∈ p.2, IsName n

theorem Expr.namesValid_of_captures {expr : Expr} (h : expr.captures = []) : expr.NamesValid := by
  rw [Expr.NamesValid, h]
  exact List.forall_mem_nil _

theorem yields_literalExpr (sw : Switches) (l : Literal) :
    Yields (sw.literalExpr l) Expr.NamesValid := by
  rw [Switches.literalExpr]
  refine yields_bind (yields_any _) fun c _ => ?_
  split
  · exact yields_ok (Expr.namesValid_of_captures rfl)
  · split <;> exact yields_ok (Expr.namesValid_of_captures rfl)

theorem Expr.namesValid_repeated {expr : Expr} (h : expr.NamesValid) (min : Nat)
    (max : Option Nat) (greedy : Bool) : (Expr.repeated min max greedy expr).NamesValid := by
  rw [Expr.repeated]
  split
  · exact Expr.namesValid_of_captures rfl
  · exact h

mutual

/-- **An expression has the names of the tree that it was resolved from.** -/
theorem yields_resolve (sw : Switches) : ∀ {tree : Tree}, tree.NamesValid →
    Yields (tree.resolve sw) fun r => r.1.NamesValid
  | .empty, _ | .switches _, _ | .assertion _, _ =>
      yields_ok (Expr.namesValid_of_captures rfl)
  | .literal l, _ => yields_bind (yields_literalExpr sw l) fun _ h => yields_ok h
  | .dot, _ | .property _ _, _ | .short _ _, _ => by
      rw [Tree.resolve]
      exact yields_bind (yields_any _) fun _ _ => yields_ok (Expr.namesValid_of_captures rfl)
  | .bracketed _ _, _ => by
      rw [Tree.resolve]
      exact yields_bind (yields_any _) fun _ _ => yields_bind (yields_any _) fun _ _ =>
        yields_ok (Expr.namesValid_of_captures rfl)
  | .repetition min max greedy sub, h => by
      rw [Tree.resolve]
      exact yields_bind (yields_resolve sw h) fun r hr =>
        yields_ok (Expr.namesValid_repeated hr _ _ _)
  | .group (.capture index name) sub, h => by
      rw [Tree.resolve]
      exact yields_bind (yields_resolve sw h.2) fun r hr =>
        yields_ok (List.forall_mem_cons.2 ⟨h.1, hr⟩)
  | .group (.plain change) sub, h => by
      rw [Tree.resolve]
      exact yields_bind (yields_resolve _ h.2) fun r hr => yields_ok hr
  | .alternation branches, h => by
      rw [Tree.resolve]
      exact yields_bind (yields_resolveList sw h) fun r hr => yields_ok hr
  | .concat parts, h => by
      rw [Tree.resolve]
      exact yields_bind (yields_resolveList sw h) fun r hr => yields_ok hr

theorem yields_resolveList (sw : Switches) : ∀ {trees : List Tree}, Tree.AllNamesValid trees →
    Yields (Tree.resolveList sw trees) fun r => Expr.AllNamesValid r.1
  | [], _ => yields_ok (List.forall_mem_nil _)
  | tree :: rest, h => by
      rw [Tree.resolveList]
      refine yields_bind (yields_resolve sw h.1) fun r hr =>
        yields_bind (yields_resolveList _ h.2) fun rs hrs => yields_ok ?_
      exact List.forall_mem_append.2 ⟨hr, hrs⟩

end

theorem namesValid_expr (p : Pattern) : p.expr.NamesValid := by
  obtain ⟨source, flags, expr, hresolves⟩ := p
  have hresolve : Yields (resolve source flags) Expr.NamesValid := by
    rw [resolve]
    refine yields_bind (yields_readTree _ _) fun tree htree =>
      yields_bind (yields_resolve _ htree) fun r hr => ?_
    dsimp only
    split
    · exact yields_error _
    · exact yields_ok hr
  exact hresolve expr hresolves

/-- **The captures of a pattern have proper names.** -/
theorem isName_of_mem_groups {p : Pattern} {name : String}
    (h : p.groups.contains (some name) = true) : IsName name := by
  rw [groups, Expr.groups, Array.contains_iff_mem, List.mem_toArray, List.mem_map] at h
  obtain ⟨i, -, hjoin⟩ := h
  obtain ⟨before, after, hcaptures, -⟩ :=
    List.lookup_eq_some_iff.1 (Option.join_eq_some_iff.1 hjoin)
  have hmem : (i + 1, some name) ∈ p.expr.captures := by
    rw [hcaptures]
    exact List.mem_append_right _ List.mem_cons_self
  exact namesValid_expr p _ hmem name rfl

/-- A source that resolves makes a pattern with its captures. -/
theorem exists_of_groups (source : String) (names : Array (Option String))
    (h : (resolve source {}).toOption.map Expr.groups = some names) :
    ∃ p : Pattern, p.source = source ∧ p.flags = {} ∧ p.groups = names := by
  cases hresolve : resolve source {} with
  | error fault =>
      rw [hresolve] at h
      cases h
  | ok expr =>
      rw [hresolve] at h
      exact ⟨⟨source, {}, expr, hresolve⟩, rfl, rfl, Option.some.inj h⟩

end PostFilter.Pattern
