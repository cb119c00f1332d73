import PostFilter.Clause.Order

/-!
# Clauses — canonical form

`Group.canonical?` reshapes a group for a place. What a scope keeps out is absent; a group without a
present member is absent too, negated or not. A group that mixes joiners is nested anew, from left
to right, into chains with one joiner each, and every chain is brought into one form:

1. members that are constant and change nothing are dropped, and one that decides the chain
   replaces it;
2. a member that is itself an un-negated chain with the same joiner gives up its own members;
3. the members are sorted, and each is kept once;
4. a chain of one member becomes that member, negated if the chain was.

Without a place nothing is absent but groups without members; this is the form that fingerprints are
taken of.
-/

namespace PostFilter

/-- The constant that changes nothing in a chain: true among `and`, false among `or`. -/
def Joiner.identity : Joiner → Bool
  | .and => true
  | .or => false

namespace Clause

/-- What a member contributes to a chain: an un-negated chain with the same joiner its members,
anything else itself. -/
def parts (joiner : Joiner) (c : Clause) : List Clause :=
  match c with
  | .group ⟨false, m :: n :: rest⟩ =>
    if m.joiner = joiner then (m :: n :: rest).map Member.clause else [c]
  | _ => [c]

/-- The members that a chain keeps: those that are not constant, with chains inside them opened,
sorted, and each once. -/
def kept (joiner : Joiner) (present : List Clause) : List Clause :=
  sortDistinct ((present.filter fun c => c.constant?.isNone).flatMap (parts joiner))

/-- A chain of kept members as one clause. -/
def ofKept (joiner : Joiner) (negated : Bool) : List Clause → Clause
  | [c] => c.negateIf negated
  | cs => .group ⟨negated, Group.chainMembers joiner cs⟩

/-- The canonical clause of a chain whose members are canonical or absent. -/
def joinChain (joiner : Joiner) (negated : Bool) (members : List (Option Clause)) :
    Option Clause :=
  let present := members.filterMap id
  let decides := !joiner.identity
  if present.any fun c => c.constant? == some decides then some (constant (decides != negated))
  else
    let cs := kept joiner present
    if cs.isEmpty then
      if present.any fun c => c.constant? == some joiner.identity then
        some (constant (joiner.identity != negated))
      else none
    else some (ofKept joiner negated cs)

/-- Nests members into chains from left to right. `run` holds the members of the chain in hand, last
one first, `joiner?` its joiner once it is known, and `link` the joiner behind it. -/
def nestRun (negated : Bool) (run : List (Option Clause)) (joiner? : Option Joiner)
    (link : Joiner) : List (Option Clause × Joiner) → Option Clause
  | [] => joinChain (joiner?.getD .or) negated run.reverse
  | (c, next) :: rest =>
    match joiner? with
    | none => nestRun negated (c :: run) (some link) next rest
    | some joiner =>
      if joiner = link then nestRun negated (c :: run) (some link) next rest
      else nestRun negated [c, joinChain joiner false run.reverse] (some link) next rest

/-- The canonical clause of members that are canonical or absent. -/
def nest (negated : Bool) : List (Option Clause × Joiner) → Option Clause
  | [] => none
  | (c, link) :: rest => nestRun negated [c] none link rest

end Clause

mutual

/-- The canonical form of a clause at a place, if it is present there. -/
def Clause.reduce (place : Option Place) : Clause → Option Clause
  | .spell s => if admitsAt place s.scope then some (.spell s) else none
  | .group g => g.reduce place

/-- The canonical form of a group at a place, if it is present there. -/
def Group.reduce (place : Option Place) : Group → Option Clause
  | ⟨negated, members⟩ => Clause.nest negated (Group.reduceMembers place members)

/-- The canonical forms of members, with their joiners. -/
def Group.reduceMembers (place : Option Place) : List Member → List (Option Clause × Joiner)
  | [] => []
  | ⟨c, joiner⟩ :: rest => (c.reduce place, joiner) :: Group.reduceMembers place rest

end

/-- A clause as an outermost group. -/
def Clause.asRoot : Clause → Group
  | .group ⟨false, members⟩ => ⟨false, members⟩
  | c => Group.single c

/-- The canonical form of a whole filter at a place; nothing where no post can match. -/
def Group.canonical? (place : Option Place) (g : Group) : Option Group :=
  (g.reduce place).map Clause.asRoot

end PostFilter
