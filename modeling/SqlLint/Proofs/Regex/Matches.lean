import Mathlib
import SqlLint.Regex

/-!
# Where matches lie

The matches that a search finds lie in the text and follow one another without overlap. A search
only moves to the right, so whatever it has not looked at yet stands no further left than where it
began; this bound goes from one pair of a state and a place to the next, and from a match to the
search for the one after it. Nothing depends on what the automaton accepts.
-/

namespace SqlLint

/-- Whether matches lie in a text of some length, one after the other. -/
structure Match.Ordered (length : Nat) (found : List Match) : Prop where
  inside : ∀ m ∈ found, m.start ≤ m.stop ∧ m.stop ≤ length
  apart : found.Pairwise fun a b => a.stop ≤ b.start

namespace Match.Ordered

variable {length : Nat} {m : Match} {found : List Match}

theorem nil : Ordered length [] := ⟨by simp, .nil⟩

theorem cons (inside : m.start ≤ m.stop ∧ m.stop ≤ length) (later : ∀ n ∈ found, m.stop ≤ n.start)
    (others : Ordered length found) : Ordered length (m :: found) :=
  ⟨List.forall_mem_cons.mpr ⟨inside, others.inside⟩, .cons later others.apart⟩

theorem start_le (ordered : Ordered length found) (member : m ∈ found) : m.start ≤ length :=
  (ordered.inside m member).1.trans (ordered.inside m member).2

/-- Matches that are not empty start further and further to the right. -/
theorem pairwise_start (ordered : Ordered length found) (full : ∀ m ∈ found, m.start < m.stop) :
    found.Pairwise fun a b => a.start < b.start :=
  ordered.apart.imp_of_mem fun first _ apart => (full _ first).trans_le apart

end Match.Ordered

namespace Regex

variable {r : Regex} {a : Automaton} {text : Array Char} {low stop : Nat}

/-- Exploring from places in a range of the text ends at a place in that range. -/
theorem explore_bounds {steps : Nat} {pairs : List (Nat × Nat)} {visited : Visited}
    (bounded : ∀ pair ∈ pairs, low ≤ pair.2 ∧ pair.2 ≤ text.size)
    (found : (explore a text steps pairs visited).1 = some stop) :
    low ≤ stop ∧ stop ≤ text.size := by
  induction steps generalizing pairs visited with
  | zero => cases found
  | succ steps ih =>
      cases pairs with
      | nil => cases found
      | cons pair rest =>
          obtain ⟨state, place⟩ := pair
          obtain ⟨here, others⟩ := List.forall_mem_cons.mp bounded
          have follow {next place : Nat} {visited : Visited}
              (inside : low ≤ place ∧ place ≤ text.size)
              (found : (explore a text steps ((next, place) :: rest) visited).1 = some stop) :
              low ≤ stop ∧ stop ≤ text.size :=
            ih (List.forall_mem_cons.mpr ⟨inside, others⟩) found
          rw [explore] at found
          dsimp only at found
          split at found
          · exact ih others found
          · split at found
            case h_1 => rwa [← Option.some.inj found]
            case h_2 set next _ =>
              split at found
              case isTrue takes =>
                have inside : place < text.size := by
                  by_contra beyond
                  rw [Array.getElem?_eq_none (Nat.le_of_not_lt beyond)] at takes
                  cases takes
                exact follow ⟨here.1.trans (Nat.le_succ _), inside⟩ found
              case isFalse => exact ih others found
            case h_3 =>
              split at found
              case isTrue => exact follow here found
              case isFalse => exact ih others found
            case h_4 targets _ =>
              refine ih (List.forall_mem_append.mpr ⟨?_, others⟩) found
              rintro pair member
              obtain ⟨_, _, rfl⟩ := List.mem_map.mp member
              exact here
            case h_5 => exact ih others found

theorem firstFrom_bounds {steps count place : Nat} {visited : Visited} {m : Match}
    (room : place + count ≤ text.size + 1)
    (found : firstFrom a text steps count place visited = some m) :
    place ≤ m.start ∧ m.start ≤ m.stop ∧ m.stop ≤ text.size := by
  induction count generalizing place visited with
  | zero => cases found
  | succ count ih =>
      rw [firstFrom] at found
      split at found
      case h_1 stop _ accepted =>
        cases found
        refine ⟨Nat.le_refl _, explore_bounds ?_ (congrArg Prod.fst accepted)⟩
        rintro pair member
        rw [List.mem_singleton.mp member]
        exact ⟨Nat.le_refl _, by omega⟩
      case h_2 =>
        obtain ⟨later, bounds⟩ := ih (by omega) found
        exact ⟨(Nat.le_succ _).trans later, bounds⟩

theorem find?_bounds {place : Nat} {m : Match} (found : r.find? text place = some m) :
    place ≤ m.start ∧ m.start ≤ m.stop ∧ m.stop ≤ text.size := by
  by_cases inside : place ≤ text.size
  · exact firstFrom_bounds (by omega) found
  · have noPlace : text.size + 1 - place = 0 := by omega
    rw [find?, noPlace] at found
    cases found

/-- The matches from a place on are in order and start no earlier. -/
theorem ordered_matchesFrom {count place : Nat} {ended : Option Nat} :
    Match.Ordered text.size (r.matchesFrom text count place ended) ∧
      ∀ m ∈ r.matchesFrom text count place ended, place ≤ m.start := by
  induction count generalizing place ended with
  | zero => exact ⟨.nil, by simp [matchesFrom]⟩
  | succ count ih =>
      -- A match found at some place is followed by the matches from its end on.
      have next {start : Nat} {m : Match} (found : r.find? text start = some m)
          (later : place ≤ start) :
          Match.Ordered text.size (m :: r.matchesFrom text count m.stop (some m.stop)) ∧
            ∀ n ∈ m :: r.matchesFrom text count m.stop (some m.stop), place ≤ n.start := by
        obtain ⟨low, inside⟩ := find?_bounds found
        obtain ⟨ordered, after⟩ := @ih m.stop (some m.stop)
        refine ⟨.cons inside after ordered, List.forall_mem_cons.mpr ⟨later.trans low, ?_⟩⟩
        intro n member
        exact later.trans (low.trans (inside.1.trans (after n member)))
      rw [matchesFrom]
      split
      case h_1 => exact ⟨.nil, by simp⟩
      case h_2 m found =>
        split
        case isTrue =>
          split
          case h_1 => exact ⟨.nil, by simp⟩
          case h_2 m found => exact next found (Nat.le_succ _)
        case isFalse => exact next found (Nat.le_refl _)

/-- The matches of a regular expression lie in the text, one after the other. -/
theorem ordered_findAll (r : Regex) (text : List Char) :
    Match.Ordered text.length (r.findAll text) := by
  have ordered : Match.Ordered text.toArray.size (r.findAll text) := ordered_matchesFrom.1
  rwa [List.size_toArray] at ordered

end Regex
end SqlLint
