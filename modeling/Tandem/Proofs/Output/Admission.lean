import Mathlib.Logic.Function.Iterate
import Tandem.Output.Sink

/-! # What a sink takes of a text

An allowance admits a text if its length is within the number of bytes and none of its
bytes stands behind as many line ends as there are lines. A sink takes the whole of an
admitted text (`Tandem.Output.Sink.write_of_admits`), and of any other text the longest
part from its beginning that is admitted, before it refuses
(`Tandem.Output.Sink.write_of_not_admits`). Writing that is interrupted at every attempt has
no result, and it is the only such writing: no number of attempts brings it to its end
(`Tandem.Output.Transfer.write_eq_none_iff`).
-/

namespace Tandem.Output

/-- Whether a text has no more bytes than a limit, if there is one. -/
def FitsBytes (limit : Option Nat) (text : List UInt8) : Prop :=
  ∀ most ∈ limit, text.length ≤ most

/-- Whether fewer lines than a limit, if there is one, end before the last byte of a text. The
byte 10 ends a line. -/
def FitsLines (limit : Option Nat) (text : List UInt8) : Prop :=
  ∀ most ∈ limit, text = [] ∨ text.dropLast.count 10 < most

/-- The first byte of a text uses up one of the bytes. -/
theorem fitsBytes_cons_iff {limit : Option Nat} {byte : UInt8} {rest : List UInt8} :
    FitsBytes limit (byte :: rest) ↔
      limit ≠ some 0 ∧ FitsBytes (limit.map (· - 1)) rest := by
  unfold FitsBytes
  cases limit with
  | none => simp
  | some most =>
      simp only [Option.mem_some_iff, forall_eq', List.length_cons, ne_eq, Option.some.injEq,
        Option.map_some]
      omega

/-- The first byte of a text uses up one of the lines if it ends one. -/
theorem fitsLines_cons_iff {limit : Option Nat} {byte : UInt8} {rest : List UInt8} :
    FitsLines limit (byte :: rest) ↔
      limit ≠ some 0 ∧
        FitsLines (if byte = lineEnd then limit.map (· - 1) else limit) rest := by
  unfold FitsLines lineEnd
  cases limit with
  | none => simp
  | some most =>
      cases rest with
      | nil => simp [Nat.pos_iff_ne_zero]
      | cons next rest =>
          by_cases ends : byte = 10
          · simp [ends]
            omega
          · simp [ends]
            omega

namespace Allowance

/-- Whether there is room for all bytes of a text, one after the other. -/
def Admits (allowance : Allowance) (text : List UInt8) : Prop :=
  FitsBytes allowance.bytes text ∧ FitsLines allowance.lines text

/-- The longest part of a text, from its beginning, that is admitted. -/
structure Cuts (allowance : Allowance) (text piece : List UInt8) : Prop where
  within : piece <+: text
  admits : allowance.Admits piece
  longest : ∀ other, other <+: text → allowance.Admits other → other <+: piece

/-- There is always room for no text. -/
theorem admits_nil (allowance : Allowance) : allowance.Admits [] :=
  ⟨fun _ _ => Nat.zero_le _, fun _ _ => .inl rfl⟩

/-- Without limits there is room for every text. -/
theorem admits_of_unlimited (text : List UInt8) : ({} : Allowance).Admits text :=
  ⟨nofun, nofun⟩

/-- A text is admitted byte by byte. -/
theorem admits_cons_iff {allowance : Allowance} {byte : UInt8} {rest : List UInt8} :
    allowance.Admits (byte :: rest) ↔
      allowance.hasRoom ∧ (allowance.spend byte).Admits rest := by
  unfold Admits hasRoom spend
  rw [fitsBytes_cons_iff, fitsLines_cons_iff, Bool.and_eq_true, bne_iff_ne, bne_iff_ne]
  exact and_and_and_comm

/-- Without room nothing of a text is admitted. -/
theorem Cuts.nil {allowance : Allowance} {byte : UInt8} {rest : List UInt8}
    (full : ¬allowance.hasRoom) : allowance.Cuts (byte :: rest) [] where
  within := List.nil_prefix
  admits := allowance.admits_nil
  longest other leads admits := by
    cases other with
    | nil => exact List.prefix_rfl
    | cons first more => exact absurd (admits_cons_iff.mp admits).1 full

/-- With room the first byte is admitted, and what is admitted of the others behind it. -/
theorem Cuts.cons {allowance : Allowance} {byte : UInt8} {rest piece : List UInt8}
    (room : allowance.hasRoom) (cuts : (allowance.spend byte).Cuts rest piece) :
    allowance.Cuts (byte :: rest) (byte :: piece) where
  within := List.cons_prefix_cons.mpr ⟨rfl, cuts.within⟩
  admits := admits_cons_iff.mpr ⟨room, cuts.admits⟩
  longest other leads admits := by
    cases other with
    | nil => exact List.nil_prefix
    | cons first more =>
        obtain ⟨rfl, further⟩ := List.cons_prefix_cons.mp leads
        apply List.cons_prefix_cons.mpr
        exact ⟨rfl, cuts.longest more further (admits_cons_iff.mp admits).2⟩

end Allowance

namespace Sink

/-- With room a byte is taken before the others are given. -/
theorem write_cons_of_hasRoom {sink : Sink} {byte : UInt8} {rest : List UInt8}
    (room : sink.allowance.hasRoom) : sink.write (byte :: rest) = (sink.take byte).write rest :=
  if_pos room

/-- Without room writing ends as the sink refuses. -/
theorem write_cons_of_not_hasRoom {sink : Sink} {byte : UInt8} {rest : List UInt8}
    (full : ¬sink.allowance.hasRoom) : sink.write (byte :: rest) = (sink.refusal.ending, sink) :=
  if_neg full

/-- A text is written after another one if that one is written to its end. -/
theorem write_append (sink : Sink) (text more : List UInt8) :
    sink.write (text ++ more) =
      match sink.write text with
      | (some (.ok ()), later) => later.write more
      | refused => refused := by
  induction text generalizing sink with
  | nil => rfl
  | cons byte rest ih =>
      rw [List.cons_append]
      by_cases room : sink.allowance.hasRoom
      · rw [write_cons_of_hasRoom room, write_cons_of_hasRoom room]
        exact ih _
      · rw [write_cons_of_not_hasRoom room, write_cons_of_not_hasRoom room, Refusal.ending]
        split
        · rfl
        · rfl

/-- A byte is taken behind the others. -/
theorem toList_taken_take (sink : Sink) (byte : UInt8) (rest : List UInt8) :
    (sink.take byte).taken.toList ++ rest = sink.taken.toList ++ byte :: rest := by
  rw [take, Array.toList_push, List.append_assoc, List.singleton_append]

/-- A sink takes a text that it admits. -/
theorem write_of_admits {sink : Sink} {text : List UInt8} (admits : sink.allowance.Admits text) :
    (sink.write text).1 = some (.ok ()) ∧
      (sink.write text).2.taken.toList = sink.taken.toList ++ text := by
  induction text generalizing sink with
  | nil => exact ⟨rfl, (List.append_nil _).symm⟩
  | cons byte rest ih =>
      obtain ⟨room, further⟩ := Allowance.admits_cons_iff.mp admits
      obtain ⟨result, taken⟩ := @ih (sink.take byte) further
      rw [write_cons_of_hasRoom room]
      exact ⟨result, taken.trans (sink.toList_taken_take byte rest)⟩

/-- A sink takes the longest part of a text that it admits, and then refuses. -/
theorem write_of_not_admits {sink : Sink} {text : List UInt8}
    (refused : ¬sink.allowance.Admits text) :
    ∃ piece, sink.allowance.Cuts text piece ∧
      (sink.write text).1 = sink.refusal.ending ∧
      (sink.write text).2.taken.toList = sink.taken.toList ++ piece := by
  induction text generalizing sink with
  | nil => exact absurd sink.allowance.admits_nil refused
  | cons byte rest ih =>
      by_cases room : sink.allowance.hasRoom
      · obtain ⟨piece, cuts, result, taken⟩ := @ih (sink.take byte)
          fun further => refused (Allowance.admits_cons_iff.mpr ⟨room, further⟩)
        rw [write_cons_of_hasRoom room]
        exact ⟨byte :: piece, cuts.cons room, result,
          taken.trans (sink.toList_taken_take byte piece)⟩
      · rw [write_cons_of_not_hasRoom room]
        exact ⟨[], .nil room, rfl, (List.append_nil _).symm⟩

end Sink

/-- Writing under way, with the bytes that are left, or the result it has come to. -/
inductive Transfer where
  | giving (rest : List UInt8) (sink : Sink)
  | settled (result : Except Error Unit) (sink : Sink)

namespace Transfer

/-- One attempt to give a sink its next byte. An interrupted attempt changes nothing. -/
def attempt : Transfer → Transfer
  | giving [] sink => settled (.ok ()) sink
  | giving (byte :: rest) sink =>
    if sink.allowance.hasRoom then giving rest (sink.take byte)
    else if sink.refusal.error.kind = .interrupted then giving (byte :: rest) sink
    else settled (.error sink.refusal.error) sink
  | settled result sink => settled result sink

variable {sink : Sink} {text : List UInt8}

/-- With room an attempt gives a byte. -/
theorem attempt_giving_of_hasRoom {byte : UInt8} {rest : List UInt8}
    (room : sink.allowance.hasRoom) :
    (giving (byte :: rest) sink).attempt = giving rest (sink.take byte) :=
  if_pos room

/-- A written text is given in as many attempts as it takes. -/
theorem exists_attempts_of_write_eq_some {result : Except Error Unit} {last : Sink}
    (written : sink.write text = (some result, last)) :
    ∃ attempts, attempt^[attempts] (giving text sink) = settled result last := by
  induction text generalizing sink with
  | nil =>
      cases written
      exact ⟨1, rfl⟩
  | cons byte rest ih =>
      by_cases room : sink.allowance.hasRoom
      · rw [Sink.write_cons_of_hasRoom room] at written
        obtain ⟨attempts, ended⟩ := ih written
        refine ⟨attempts + 1, ?_⟩
        rw [Function.iterate_succ_apply, attempt_giving_of_hasRoom room]
        exact ended
      · rw [Sink.write_cons_of_not_hasRoom room, Refusal.ending] at written
        by_cases interrupted : sink.refusal.error.kind = .interrupted
        · rw [if_pos interrupted] at written
          cases written
        · rw [if_neg interrupted] at written
          cases written
          refine ⟨1, ?_⟩
          rw [Function.iterate_one, attempt, if_neg room, if_neg interrupted]

/-- A text without a result is never given to its end. -/
theorem giving_of_write_eq_none {last : Sink} (endless : sink.write text = (none, last))
    (attempts : Nat) : ∃ rest later, attempt^[attempts] (giving text sink) = giving rest later := by
  induction text generalizing sink attempts with
  | nil => cases endless
  | cons byte rest ih =>
      by_cases room : sink.allowance.hasRoom
      · rw [Sink.write_cons_of_hasRoom room] at endless
        cases attempts with
        | zero => exact ⟨_, _, rfl⟩
        | succ attempts =>
            rw [Function.iterate_succ_apply, attempt_giving_of_hasRoom room]
            exact ih endless attempts
      · rw [Sink.write_cons_of_not_hasRoom room, Refusal.ending] at endless
        have interrupted : sink.refusal.error.kind = .interrupted := by
          by_contra ends
          rw [if_neg ends] at endless
          cases endless
        -- The attempt leaves everything as it was, so each later one does.
        have again : (giving (byte :: rest) sink).attempt = giving (byte :: rest) sink := by
          rw [attempt, if_neg room, if_pos interrupted]
        exact ⟨_, _, Function.iterate_fixed again attempts⟩

/-- Writing has no result just if no number of attempts brings it to its end. -/
theorem write_eq_none_iff :
    (sink.write text).1 = none ↔
      ∀ attempts, ∃ rest later, attempt^[attempts] (giving text sink) = giving rest later := by
  refine ⟨fun endless => giving_of_write_eq_none (Prod.ext endless rfl), ?_⟩
  intro endless
  cases written : sink.write text with
  | mk result last =>
      cases result with
      | none => rfl
      | some result =>
          obtain ⟨attempts, ended⟩ := exists_attempts_of_write_eq_some written
          obtain ⟨rest, later, goesOn⟩ := endless attempts
          cases goesOn.symm.trans ended

end Transfer

end Tandem.Output
