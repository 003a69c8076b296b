import PathRouter.Automaton.Item
import PathRouter.Automaton.State
import PathRouter.Pattern
import PathRouter.Text.Utf8

/-!
The route automaton by subset construction. A state stands for the set of positions that the routes can
be at after some path; a set is identified by the increasing numbers of its items, so two states are
never made for one set. Only the start state is kept apart: a leading `*` variable accepts there, and
not where the same set is reached again after a separator.
-/

namespace PathRouter.Automaton

inductive Label where
  | octet (b : UInt8)
  | letter
  deriving Repr, DecidableEq

def Label.admits : Label → UInt8 → Bool
  | .octet a, b => a = b
  | .letter, b => isLetter b

structure Outlook where
  moves : List (Label × Item)
  accepts : Bool
  deriving Repr, DecidableEq

/-- From the end of a segment: the separator and the next segment, where a `*` variable may be empty; or
the end of the route, which a quantified variable can also leave for another round. -/
def Item.atSegmentEnd (item : Item) (segment : Segment) (next : Option Segment) : Outlook :=
  match next with
  | some segment => ⟨[(.octet slash, ⟨item.route, item.segment + 1, 0⟩)], segment.isStar⟩
  | none =>
    if segment.isQuantified then ⟨[(.octet slash, ⟨item.route, item.segment, 0⟩)], true⟩
    else ⟨[], true⟩

/-- What an item leads to among the segments of its route. At the start of the path a `*` variable may be
empty. -/
def Item.outlook (item : Item) (segments : List Segment) (atStart : Bool) : Outlook :=
  match segments[item.segment]? with
  | none => ⟨[], false⟩
  | some (.literal text) =>
    match (Utf8.encode text.toList)[item.offset]? with
    | some b => ⟨[(.octet b, { item with offset := item.offset + 1 })], false⟩
    | none => item.atSegmentEnd (.literal text) segments[item.segment + 1]?
  | some (.var name quantifier) =>
    let inside : Label × Item := (.letter, { item with offset := 1 })
    if item.offset = 0 then ⟨[inside], atStart && quantifier = some .star⟩
    else
      let outlook := item.atSegmentEnd (.var name quantifier) segments[item.segment + 1]?
      ⟨inside :: outlook.moves, outlook.accepts⟩

def insertNumber (n : Nat) : List Nat → List Nat
  | [] => [n]
  | m :: rest => if n < m then n :: m :: rest else if n = m then m :: rest else m :: insertNumber n rest

def numberSet (numbers : List Nat) : List Nat :=
  numbers.foldr insertNumber []

structure Conflict where
  sources : List String
  deriving Repr, DecidableEq

def Conflict.message (conflict : Conflict) : String :=
  "route conflicts detected: " ++ ", ".intercalate conflict.sources

/-- The automaton under construction: the items and item sets seen so far, and the states, of which the
pending ones still lack their transitions. -/
structure Construction where
  pool : ItemPool
  index : Std.HashMap (List Nat) Nat
  states : Array State
  pending : List (Nat × List Nat)

namespace Construction

/-- The state of an item set, which is a new pending one if the set has not been seen. -/
def stateOf (c : Construction) (set : List Nat) : Nat × Construction :=
  match c.index[set]? with
  | some id => (id, c)
  | none =>
    let id := c.states.size
    (id, { c with
      index := c.index.insert set id
      states := c.states.push (State.blank id)
      pending := (id, set) :: c.pending })

def connect (c : Construction) : List (UInt8 × List Nat) → List (UInt8 × Nat) × Construction
  | [] => ([], c)
  | (b, set) :: rest =>
    if set.isEmpty then c.connect rest
    else
      let (id, c) := c.stateOf set
      let (transitions, c) := c.connect rest
      ((b, id) :: transitions, c)

def outlooks (c : Construction) (routes : Array Pattern) (set : List Nat) (atStart : Bool) :
    List (Nat × Outlook) :=
  set.filterMap fun number => do
    let item ← c.pool.items[number]?
    let route ← routes[item.route]?
    some (item.route, item.outlook route.segments atStart)

/-- Fills in a state that stands for an item set, unless several routes accept in it. -/
def expand (c : Construction) (routes : Array Pattern) (id : Nat) (set : List Nat) (atStart : Bool) :
    Except Conflict Construction :=
  let outlooks := c.outlooks routes set atStart
  let accepting := numberSet ((outlooks.filter (·.2.accepts)).map (·.1))
  if 1 < accepting.length then
    .error ⟨accepting.filterMap fun route => routes[route]?.map (·.source)⟩
  else
    let moves := outlooks.flatMap (·.2.moves)
    let (numbers, pool) := c.pool.internAll (moves.map (·.2))
    let targets := (moves.map (·.1)).zip numbers
    let successors := pathOctets.map fun b =>
      (b, numberSet ((targets.filter (·.1.admits b)).map (·.2)))
    let (transitions, c) := { c with pool := pool }.connect successors
    .ok { c with states := c.states.set! id ⟨id, transitions, accepting.head?⟩ }

/-- Fills in pending states, the latest first, until none is left. -/
def complete (routes : Array Pattern) : Nat → Construction → Except Conflict Construction
  | 0, c => .ok c
  | fuel + 1, c =>
    match c.pending with
    | [] => .ok c
    | (id, set) :: rest =>
      match { c with pending := rest }.expand routes id set false with
      | .error conflict => .error conflict
      | .ok c => c.complete routes fuel

def start (routes : Array Pattern) : Except Conflict Construction :=
  let (set, pool) := ItemPool.empty.internAll ((List.range routes.size).map fun route => ⟨route, 0, 0⟩)
  expand ⟨pool, ∅, #[State.blank 0], []⟩ routes 0 (numberSet set) true

end Construction

def itemCount : Segment → Nat
  | .literal text => Utf8.size text.toList + 1
  | .var _ _ => 2

def routeItemCount (route : Pattern) : Nat :=
  route.segments.foldr (fun segment count => itemCount segment + count) 0

/-- No set holds two items of one route, so the states are at most the start state and one for each choice
of an item or none from every route. -/
def stateBound (routes : Array Pattern) : Nat :=
  1 + routes.toList.foldr (fun route count => (routeItemCount route + 1) * count) 1

def build (routes : Array Pattern) : Except Conflict (Array State) :=
  match Construction.start routes with
  | .error conflict => .error conflict
  | .ok c => (c.complete routes (stateBound routes)).map (·.states)

end PathRouter.Automaton
