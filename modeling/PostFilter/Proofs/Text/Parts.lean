import Mathlib.Data.List.TakeWhile
import PostFilter.Text.Blank
import PostFilter.Text.Reading

/-!
# Text — parts are found as they were put together

Splitting undoes joining where the separator stands in no part (`splitFirst?_append`,
`splitAll_intercalate`), trimming changes nothing where there are no blanks (`trimList_eq_self`),
and the run at the front of a text ends where a part ends (`takeWhile_append_of_stops`).

`Stops p rest` says that a text goes on with `rest` in a way that ends a run of `p`.
-/

namespace PostFilter.Text

variable {p : Char → Bool}

/-! ### Splitting -/

theorem splitFirst?_eq_none : ∀ {s : List Char}, (∀ c ∈ s, p c = false) → splitFirst? p s = none
  | [], _ => rfl
  | c :: s, h => by
      have hc : p c = false := h c List.mem_cons_self
      rw [splitFirst?, hc, splitFirst?_eq_none fun d hd => h d (List.mem_cons_of_mem _ hd)]
      rfl

theorem splitFirst?_append {c : Char} {rest : List Char} (hc : p c = true) :
    ∀ {s : List Char}, (∀ d ∈ s, p d = false) → splitFirst? p (s ++ c :: rest) = some (s, rest)
  | [], _ => by rw [List.nil_append, splitFirst?, if_pos hc]
  | d :: s, h => by
      have hd : p d = false := h d List.mem_cons_self
      rw [List.cons_append, splitFirst?, hd,
        splitFirst?_append hc fun e he => h e (List.mem_cons_of_mem _ he)]
      rfl

theorem splitAll_eq_singleton : ∀ {s : List Char}, (∀ c ∈ s, p c = false) → splitAll p s = [s]
  | [], _ => rfl
  | c :: s, h => by
      have hc : p c = false := h c List.mem_cons_self
      rw [splitAll, hc, splitAll_eq_singleton fun d hd => h d (List.mem_cons_of_mem _ hd)]
      rfl

theorem splitAll_append {c : Char} {rest : List Char} (hc : p c = true) :
    ∀ {s : List Char}, (∀ d ∈ s, p d = false) → splitAll p (s ++ c :: rest) = s :: splitAll p rest
  | [], _ => by rw [List.nil_append, splitAll, if_pos hc]
  | d :: s, h => by
      have hd : p d = false := h d List.mem_cons_self
      rw [List.cons_append, splitAll, hd,
        splitAll_append hc fun e he => h e (List.mem_cons_of_mem _ he)]
      rfl

/-- **Splitting undoes joining.** -/
theorem splitAll_intercalate {c : Char} (hc : p c = true) : ∀ {parts : List (List Char)},
    parts ≠ [] → (∀ part ∈ parts, ∀ d ∈ part, p d = false) →
    splitAll p (([c] : List Char).intercalate parts) = parts
  | [part], _, h => by
      rw [List.intercalate_singleton]
      exact splitAll_eq_singleton (h part (List.mem_singleton_self part))
  | part :: next :: parts, _, h => by
      rw [List.intercalate_cons_cons, List.append_assoc, List.singleton_append,
        splitAll_append hc (h part List.mem_cons_self),
        splitAll_intercalate hc (List.cons_ne_nil _ _) fun q hq => h q (List.mem_cons_of_mem _ hq)]

/-! ### Trimming -/

/-- The numbers of the blanks. -/
def blanks : List Nat :=
  [0x20, 0x09, 0x0A, 0x0B, 0x0C, 0x0D, 0x85, 0xA0, 0x1680, 0x2000, 0x2001, 0x2002, 0x2003, 0x2004,
    0x2005, 0x2006, 0x2007, 0x2008, 0x2009, 0x200A, 0x2028, 0x2029, 0x202F, 0x205F, 0x3000]

theorem toNat_mem_blanks {c : Char} (h : isBlank c = true) : c.toNat ∈ blanks := by
  simp only [isBlank, Bool.or_eq_true, Bool.and_eq_true, beq_iff_eq, decide_eq_true_eq] at h
  simp only [blanks, List.mem_cons, List.not_mem_nil, or_false]
  omega

/-- No blank is in a class of characters that misses each of them. -/
theorem isBlank_eq_false (h : ∀ n ∈ blanks, p (Char.ofNat n) = false) {c : Char}
    (hc : p c = true) : isBlank c = false := by
  cases hb : isBlank c with
  | false => rfl
  | true =>
      have hmiss := h _ (toNat_mem_blanks hb)
      rw [Char.ofNat_toNat, hc] at hmiss
      cases hmiss

theorem dropWhile_eq_self {s : List Char} (h : ∀ c ∈ s.head?, p c = false) : s.dropWhile p = s := by
  cases s with
  | nil => rfl
  | cons c s => rw [List.dropWhile_cons, h c rfl]; rfl

/-- A text without blanks is its own trimmed form. -/
theorem trimList_eq_self {s : List Char} (h : ∀ c ∈ s, isBlank c = false) : trimList s = s := by
  have hstart : trimStart s = s := dropWhile_eq_self fun c hc => h c (List.mem_of_mem_head? hc)
  have hend : s.reverse.dropWhile isBlank = s.reverse :=
    dropWhile_eq_self fun c hc => h c (List.mem_reverse.1 (List.mem_of_mem_head? hc))
  rw [trimList, hstart, trimEnd, hend, List.reverse_reverse]

theorem trimList_ne_nil {s : List Char} {c : Char} (hc : c ∈ s) (hblank : isBlank c = false) :
    trimList s ≠ [] := by
  intro hnil
  have hend : ∀ d ∈ s.dropWhile isBlank, isBlank d = true := by
    have hreverse := List.reverse_eq_nil_iff.1 hnil
    exact fun d hd => List.dropWhile_eq_nil_iff.1 hreverse d (List.mem_reverse.2 hd)
  have hsplit : s.takeWhile isBlank ++ s.dropWhile isBlank = s := List.takeWhile_append_dropWhile
  have hall : isBlank c = true := by
    rw [← hsplit] at hc
    exact (List.mem_append.1 hc).elim List.mem_takeWhile_imp (hend c)
  rw [hblank] at hall
  cases hall

theorem trimList_toList {s : String} (h : IsTrimmed s) : trimList s.toList = s.toList := by
  rw [IsTrimmed, trim] at h
  rw [← String.toList_ofList (l := trimList s.toList), h]

/-! ### Runs -/

/-- Whether a run of `p` ends before this text. -/
def Stops (p : Char → Bool) (rest : List Char) : Prop := ∀ c ∈ rest.head?, p c = false

theorem Stops.of_append {a b : List Char} (h : Stops p (a ++ b)) : Stops p a := by
  cases a with
  | nil => exact fun c hc => by cases hc
  | cons c a => exact h

theorem stops_dropWhile (p : Char → Bool) : ∀ s : List Char, Stops p (s.dropWhile p)
  | [] => fun c hc => by cases hc
  | c :: s => by
      rw [List.dropWhile_cons]
      split
      · exact stops_dropWhile p s
      · rename_i hc
        intro d hd
        cases hd
        exact Bool.not_eq_true _ ▸ hc

/-- What was trimmed is trimmed. -/
theorem trimList_trimList (s : List Char) : trimList (trimList s) = trimList s := by
  have hsplit : (trimStart s).reverse.takeWhile isBlank ++ (trimStart s).reverse.dropWhile isBlank =
      (trimStart s).reverse := List.takeWhile_append_dropWhile
  have hfront : trimStart s =
      trimList s ++ ((trimStart s).reverse.takeWhile isBlank).reverse := by
    rw [trimList, trimEnd, ← List.reverse_append, hsplit, List.reverse_reverse]
  have hstart : trimStart (trimList s) = trimList s := by
    have hstops : Stops isBlank (trimStart s) := stops_dropWhile isBlank s
    rw [hfront] at hstops
    exact dropWhile_eq_self hstops.of_append
  rw [trimList, hstart, trimList, trimEnd, trimEnd, List.reverse_reverse,
    dropWhile_eq_self (stops_dropWhile isBlank _)]

theorem stops_nil : Stops p [] := fun _ hc => by cases hc

theorem stops_cons {c : Char} {rest : List Char} (h : p c = false) : Stops p (c :: rest) :=
  fun d hd => by cases hd; exact h

theorem Stops.mono {q : Char → Bool} {rest : List Char} (h : Stops p rest)
    (hpq : ∀ c, p c = false → q c = false) : Stops q rest := fun c hc => hpq c (h c hc)

theorem takeWhile_append_of_stops {rest : List Char} (hrest : Stops p rest) :
    ∀ {s : List Char}, (∀ c ∈ s, p c = true) → (s ++ rest).takeWhile p = s
  | [], _ => by
      cases rest with
      | nil => rfl
      | cons c rest => rw [List.nil_append, List.takeWhile_cons, hrest c rfl]; rfl
  | c :: s, h => by
      rw [List.cons_append, List.takeWhile_cons, h c List.mem_cons_self,
        takeWhile_append_of_stops hrest fun d hd => h d (List.mem_cons_of_mem _ hd)]
      rfl

theorem dropWhile_append_of_stops {rest : List Char} (hrest : Stops p rest) :
    ∀ {s : List Char}, (∀ c ∈ s, p c = true) → (s ++ rest).dropWhile p = rest
  | [], _ => dropWhile_eq_self hrest
  | c :: s, h => by
      rw [List.cons_append, List.dropWhile_cons, h c List.mem_cons_self,
        dropWhile_append_of_stops hrest fun d hd => h d (List.mem_cons_of_mem _ hd)]
      rfl

/-! ### Parts with blanks around them -/

/-- Trimming takes off the blanks in front of a part and behind it. -/
theorem trimList_append {before part after : List Char} (hbefore : ∀ c ∈ before, isBlank c = true)
    (hafter : ∀ c ∈ after, isBlank c = true) (hne : part ≠ [])
    (hpart : ∀ c ∈ part, isBlank c = false) : trimList (before ++ (part ++ after)) = part := by
  have hstart : Stops isBlank (part ++ after) := by
    obtain ⟨c, more, rfl⟩ := List.exists_cons_of_ne_nil hne
    exact stops_cons (hpart c List.mem_cons_self)
  have hend : Stops isBlank part.reverse :=
    fun c hc => hpart c (List.mem_reverse.1 (List.mem_of_mem_head? hc))
  rw [trimList, trimStart, dropWhile_append_of_stops hstart hbefore, trimEnd, List.reverse_append,
    dropWhile_append_of_stops hend fun c hc => hafter c (List.mem_reverse.1 hc),
    List.reverse_reverse]

/-- Splitting and trimming undoes joining with blanks around the separator. -/
theorem map_trimList_splitAll {c : Char} {before after : List Char} (hc : p c = true)
    (hbefore : ∀ d ∈ before, isBlank d = true ∧ p d = false)
    (hafter : ∀ d ∈ after, isBlank d = true ∧ p d = false) :
    ∀ {parts : List (List Char)} {lead : List Char}, parts ≠ [] →
    (∀ part ∈ parts, part ≠ [] ∧ ∀ d ∈ part, isBlank d = false ∧ p d = false) →
    (∀ d ∈ lead, isBlank d = true ∧ p d = false) →
    (splitAll p (lead ++ (before ++ c :: after).intercalate parts)).map trimList = parts
  | [part], lead, _, h, hlead => by
      obtain ⟨hne, hpart⟩ := h part (List.mem_singleton_self part)
      have hall : ∀ d ∈ lead ++ part, p d = false := fun d hd =>
        (List.mem_append.1 hd).elim (fun hd => (hlead d hd).2) fun hd => (hpart d hd).2
      have htrim := trimList_append (fun d hd => (hlead d hd).1) (List.forall_mem_nil _) hne
        fun d hd => (hpart d hd).1
      rw [List.append_nil] at htrim
      rw [List.intercalate_singleton, splitAll_eq_singleton hall, List.map_singleton, htrim]
  | part :: next :: parts, lead, _, h, hlead => by
      obtain ⟨hne, hpart⟩ := h part List.mem_cons_self
      have hall : ∀ d ∈ lead ++ (part ++ before), p d = false := by
        intro d hd
        rcases List.mem_append.1 hd with hd | hd
        · exact (hlead d hd).2
        · exact (List.mem_append.1 hd).elim (fun hd => (hpart d hd).2) fun hd => (hbefore d hd).2
      have htrim := trimList_append (fun d hd => (hlead d hd).1) (fun d hd => (hbefore d hd).1) hne
        fun d hd => (hpart d hd).1
      have hsplit : lead ++ (before ++ c :: after).intercalate (part :: next :: parts) =
          lead ++ (part ++ before) ++
            c :: (after ++ (before ++ c :: after).intercalate (next :: parts)) := by
        simp only [List.intercalate_cons_cons, List.append_assoc, List.cons_append]
      rw [hsplit, splitAll_append hc hall, List.map_cons, htrim,
        map_trimList_splitAll hc hbefore hafter (List.cons_ne_nil _ _)
          (fun q hq => h q (List.mem_cons_of_mem _ hq)) hafter]

end PostFilter.Text
