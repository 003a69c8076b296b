import PathRouter.Proofs.Percent.Normalization
import PathRouter.Proofs.Router.Filling

/-! What an engine is given to read. Whatever the input, it is a path of slashes, safe octets and escapes, so the
checks of its octets against the alphabet never stop a lookup, and each segment of it spells a text. -/

namespace PathRouter

namespace Percent

def isUpperHex (b : UInt8) : Bool :=
  (0x30 ≤ b && b ≤ 0x39) || (0x41 ≤ b && b ≤ 0x46)

/-- Octets that are slashes, safe octets, and percent signs with two upper-case hexadecimal digits. -/
inductive CanonicalOctets : List UInt8 → Prop
  | nil : CanonicalOctets []
  | slash {rest : List UInt8} (h : CanonicalOctets rest) : CanonicalOctets (0x2f :: rest)
  | safe {b : UInt8} {rest : List UInt8} (hb : isSafe b = true) (h : CanonicalOctets rest) : CanonicalOctets (b :: rest)
  | escape {high low : UInt8} {rest : List UInt8} (hh : isUpperHex high = true) (hl : isUpperHex low = true)
      (h : CanonicalOctets rest) : CanonicalOctets (0x25 :: high :: low :: rest)

lemma isUpperHex_hexDigit : ∀ b : UInt8, isUpperHex (hexDigit (b / 16)).toUInt8 = true ∧
    isUpperHex (hexDigit (b % 16)).toUInt8 = true :=
  forall_octet (by decide +kernel)

lemma CanonicalOctets.append {octets octets' : List UInt8} (h : CanonicalOctets octets)
    (h' : CanonicalOctets octets') : CanonicalOctets (octets ++ octets') := by
  induction h with
  | nil => exact h'
  | slash _ ih => exact .slash ih
  | safe hb _ ih => exact .safe hb ih
  | escape hh hl _ ih => exact .escape hh hl ih

lemma canonicalOctets_spelled (b : UInt8) : CanonicalOctets (spelled b) := by
  cases hs : isSafe b with
  | true =>
    rw [(spelled_of_safe b hs).1]
    exact .safe hs .nil
  | false =>
    rw [spelled_of_not_safe b hs]
    exact .escape (isUpperHex_hexDigit b).1 (isUpperHex_hexDigit b).2 .nil

lemma canonicalOctets_encode (data : List Char) : CanonicalOctets (Utf8.encode (encode data)) := by
  rw [utf8_encode]
  induction Utf8.encode data with
  | nil => exact .nil
  | cons b rest ih => exact (canonicalOctets_spelled b).append ih

lemma canonicalOctets_pathOf (texts : List (List Char)) : CanonicalOctets (Utf8.encode (pathOf texts)) := by
  induction texts with
  | nil => exact .nil
  | cons text rest ih =>
    cases rest with
    | nil =>
      simpa [pathOf] using canonicalOctets_encode text
    | cons next rest =>
      rw [pathOf, List.map_cons, List.map_cons, Pieces.join_cons_cons, Utf8.encode, List.flatMap_append]
      exact (canonicalOctets_encode text).append (.slash ih)

lemma IsCanonicalPath.canonicalOctets {path : List Char} (h : IsCanonicalPath path) :
    CanonicalOctets (Utf8.encode path) := by
  obtain ⟨texts, -, rfl⟩ := (isCanonicalPath_iff path).mp h
  exact .slash (canonicalOctets_pathOf texts)

lemma length_cut_of_normalizePath {path normal : List Char} (h : normalizePath path = some normal) :
    (Pieces.cut '/' normal).length = (Pieces.cut '/' path).length := by
  obtain ⟨texts, hne, hs, rfl⟩ := (normalizePath_eq_some_iff _ _).mp h
  rw [cut_pathOf hne, List.length_map, hs.length_eq]

lemma exists_decode_of_normalizePath {path normal : List Char} (h : normalizePath path = some normal)
    {segment : List Char} (hs : segment ∈ Pieces.cut '/' normal) :
    ∃ text, Spells segment text ∧ decode segment = .ok text ∧ decodeLenient segment = text := by
  obtain ⟨texts, hne, -, rfl⟩ := (normalizePath_eq_some_iff _ _).mp h
  rw [cut_pathOf hne] at hs
  obtain ⟨text, -, rfl⟩ := List.mem_map.mp hs
  exact ⟨text, .of_encode text, decode_encode text, decodeLenient_encode text⟩

end Percent

namespace Table

open Automaton

/-- A run that takes a step on any octet, whether or not it can stand in a path. -/
def follow? (next? : Nat → UInt8 → Option (Option Nat)) (answer? : Nat → Option (Option Nat)) (state : Nat) :
    List UInt8 → Option (Option Nat)
  | [] => answer? state
  | b :: rest =>
    match next? state b with
    | none => none
    | some none => some none
    | some (some next) => follow? next? answer? next rest

def acceptedAt? (accepted : Packed) (routes state : Nat) : Option (Option Nat) :=
  (accepted.get? state).map fun route => if route < routes then some route else none

namespace Dense

def next? (m : Dense) (state : Nat) (b : UInt8) : Option (Option Nat) :=
  (m.table.get? (state * rowWidth + column b)).map fun next => if next < m.states then some next else none

lemma runFrom?_eq_follow? (m : Dense) {octets : List UInt8} (h : ∀ b ∈ octets, isPathOctet b = true) (state : Nat) :
    m.runFrom? state octets = follow? m.next? (acceptedAt? m.accepted m.routes) state octets := by
  induction octets generalizing state with
  | nil => rfl
  | cons b rest ih =>
    rw [runFrom?, if_pos (h b List.mem_cons_self), follow?, next?]
    cases m.table.get? (state * rowWidth + column b) with
    | none => rfl
    | some next =>
      by_cases hn : next < m.states
      · simpa only [Option.map_some, if_pos hn] using ih (fun b hb => h b (List.mem_cons_of_mem _ hb)) next
      · simp only [Option.map_some, if_neg hn]

end Dense

namespace Sparse

lemma runFrom?_eq_follow? (m : Sparse) {octets : List UInt8} (h : ∀ b ∈ octets, isPathOctet b = true) (state : Nat) :
    m.runFrom? state octets = follow? m.next? (acceptedAt? m.accepted m.routes) state octets := by
  induction octets generalizing state with
  | nil => rfl
  | cons b rest ih =>
    rw [runFrom?, if_pos (h b List.mem_cons_self), follow?]
    cases m.next? state b with
    | none => rfl
    | some verdict =>
      cases verdict with
      | none => rfl
      | some next => exact ih (fun b hb => h b (List.mem_cons_of_mem _ hb)) next

end Sparse

end Table

namespace Engine

open Automaton Table

/-- The answer to a path without any check of its octets against the alphabet. -/
def runUnchecked? (engine : Engine) (path : List UInt8) : Option (Option Nat) :=
  match engine with
  | .dense m => follow? m.next? (acceptedAt? m.accepted m.routes) 0 path.tail
  | .sparse m => follow? m.next? (acceptedAt? m.accepted m.routes) 0 path.tail

lemma run?_eq_runUnchecked? (engine : Engine) {path : List UInt8} (h : ∀ b ∈ path, isPathOctet b = true) :
    engine.run? path = engine.runUnchecked? path := by
  have htail : ∀ b ∈ path.tail, isPathOctet b = true := fun b hb => h b (List.mem_of_mem_tail hb)
  cases engine with
  | dense m => exact m.runFrom?_eq_follow? htail 0
  | sparse m => exact m.runFrom?_eq_follow? htail 0

end Engine

namespace RouteInput

open Percent

variable {input : RouteInput} {pathname path : List Char}

structure IsReadable (pathname path : List Char) : Prop where
  absolute : (Utf8.encode path).head? = some Automaton.slash
  canonical : CanonicalOctets (Utf8.encode path)
  visible : ∀ b ∈ Utf8.encode path, 0x21 ≤ b ∧ b ≤ 0x7e
  unstopped : ∀ engine : Engine, engine.run? (Utf8.encode path) = engine.runUnchecked? (Utf8.encode path)
  segments : (Pieces.cut '/' path).length = (Pieces.cut '/' pathname).length
  texts : ∀ segment ∈ Pieces.cut '/' path,
    ∃ text, Spells segment text ∧ decode segment = .ok text ∧ decodeLenient segment = text

/-- The octets that a lookup runs an engine on are those of a path that is absolute, canonical and readable, whatever
the input. -/
theorem isReadable (hp : input.pathname? = some pathname) (hn : normalizePath pathname = some path) :
    IsReadable pathname path ∧ ∀ (α : Type) (router : Router α), router.find? input =
      (router.engine.run (Utf8.encode path)).bind fun r => (router.routes[r]?).map (path, ·) := by
  have hc := Router.isCanonicalPath_of_normalizePath (Router.head?_of_pathname? hp) hn
  have hoctets := Automaton.octets_of_isCanonicalPath hc
  refine ⟨⟨?_, hc.canonicalOctets, fun b hb => ?_, fun engine => engine.run?_eq_runUnchecked? hoctets,
    length_cut_of_normalizePath hn, fun segment => exists_decode_of_normalizePath hn⟩, fun α router => ?_⟩
  · obtain ⟨body, rfl⟩ := List.head?_eq_some_iff.mp hc.1
    rfl
  · simpa only [Automaton.isPathOctet, Bool.and_eq_true, decide_eq_true_eq] using hoctets b hb
  · rw [Router.find?_eq_bind, path?, hp, Option.bind_some, hn, Option.bind_some, Router.lookup?, Option.map_bind]
    rfl

theorem isReadable_accented : (RouteInput.text "/caf\u00e9%2f/a b?x").pathname? = some "/caf%C3%A9%2f/a%20b".toList ∧
    normalizePath "/caf%C3%A9%2f/a%20b".toList = some "/caf%C3%A9%2F/a%20b".toList ∧
    IsReadable "/caf%C3%A9%2f/a%20b".toList "/caf%C3%A9%2F/a%20b".toList := by
  have hp : (RouteInput.text "/caf\u00e9%2f/a b?x").pathname? = some "/caf%C3%A9%2f/a%20b".toList := by
    decide +kernel
  have hn : normalizePath "/caf%C3%A9%2f/a%20b".toList = some "/caf%C3%A9%2F/a%20b".toList := by decide +kernel
  exact ⟨hp, hn, (isReadable hp hn).1⟩

end RouteInput

end PathRouter
