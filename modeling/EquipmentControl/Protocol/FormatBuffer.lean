import EquipmentControl.Library.ByteMemory
import EquipmentControl.Protocol.LineCodec

/-!
# The output buffer of the line codec

`lineFormatInto` is `line_format` with the memory behind `out`: every `snprintf` at the end of
what was written so far, with the check on its result, and the final newline and NUL. A failed
call returns after the print that did not fit, so the memory it leaves is part of the result.

What it computes is `lineFormat` (`lineFormatInto_result`). It refuses exactly the capacities
that cannot take the complete text, a newline and a NUL, otherwise the buffer holds just these,
and no byte at the capacity or beyond is ever written (`lineFormatInto_exact`).
-/

set_option autoImplicit false

namespace EquipmentControl

open ByteMemory DecimalText

/-- `int r = snprintf(out + w, cap - w, ...); if (w + r >= cap) return -1; w += r;`. The error
carries the memory the call returns with. -/
def appendInto (cap : ℕ) (text : Bytes) (out : Memory × ℕ) : Except Memory (Memory × ℕ) :=
  let mem := printBounded out.1 out.2 (cap - out.2) text
  if cap ≤ out.2 + text.length then .error mem else .ok (mem, out.2 + text.length)

/-- The append of a key with its value, when the key is present. -/
def appendKeyInto (cap : ℕ) (key : String) (value : Option Bytes) (out : Memory × ℕ) :
    Except Memory (Memory × ℕ) :=
  match value with
  | none => .ok out
  | some value => appendInto cap (32 :: keyWord key value) out

section Codec

variable {δ : Type} [CDouble δ]

/-- The appends of `line_format`, each after the last. -/
def appendMessageInto (m : Message δ) (cap : ℕ) (mem : Memory) : Except Memory (Memory × ℕ) := do
  let out ← appendInto cap (roleTo m.role ++ 32 :: typeTo m.type) (mem, 0)
  let out ← appendKeyInto cap "dev" (m.dev.map fun dev => decimal dev.toNat) out
  let out ← appendKeyInto cap "seq" (m.seq.map fun seq => decimal seq.toNat) out
  let out ← appendKeyInto cap "ok" (m.ok.map fun ok => signedDecimal ok.toInt) out
  let out ← appendKeyInto cap "state" (m.state.map fun state => state.bytes) out
  let out ← appendKeyInto cap "code" (m.code.map fun code => signedDecimal code.toInt) out
  let out ← appendKeyInto cap "msg" (m.msg.map fun msg => msg.bytes) out
  let out ← appendKeyInto cap "temp" (m.temp.map CDouble.fixed2) out
  let out ← appendKeyInto cap "pressure" (m.pressure.map CDouble.fixed2) out
  appendKeyInto cap "flow" (m.flow.map CDouble.fixed2) out

/-- `line_format` into a buffer of `cap` bytes: the memory it leaves, and its result, where `none`
is -1. -/
def lineFormatInto (m : Message δ) (cap : ℕ) (mem : Memory) : Memory × Option ℕ :=
  if cap < 8 then (mem, none)
  else
    match appendMessageInto m cap mem with
    | .error mem => (mem, none)
    | .ok (mem, w) =>
        if cap < w + 2 then (mem, none)
        else (store (store mem w [10]) (w + 1) [0], some (w + 1))

end Codec

/-! ## The appends -/

/-- The text printed so far, with room for its NUL. -/
structure Printed (byte : ℕ → UInt8) (cap : ℕ) (text : Bytes) (out : Memory × ℕ) : Prop where
  frame : Frame byte cap out.1
  holds : Holds out.1 text
  length : out.2 = text.length
  room : text.length < cap

/-- An append into the buffer does what it does to the text. -/
inductive Prints (byte : ℕ → UInt8) (cap : ℕ) :
    Option Bytes → Except Memory (Memory × ℕ) → Prop where
  | fits {text out} (printed : Printed byte cap text out) : Prints byte cap (some text) (.ok out)
  | refused {mem} (frame : Frame byte cap mem) : Prints byte cap none (.error mem)

variable {byte : ℕ → UInt8} {cap : ℕ}

theorem Prints.bind {text : Option Bytes} {out : Except Memory (Memory × ℕ)}
    {next : Bytes → Option Bytes} {nextInto : Memory × ℕ → Except Memory (Memory × ℕ)}
    (prints : Prints byte cap text out)
    (after : ∀ {w out}, Printed byte cap w out → Prints byte cap (next w) (nextInto out)) :
    Prints byte cap (text >>= next) (out >>= nextInto) := by
  cases prints with
  | fits printed => exact after printed
  | refused frame => exact .refused frame

/-- A print at the end of the text stays below the capacity, and fails exactly when the text and
its NUL do not fit. -/
theorem appendInto_prints {w : Bytes} {out : Memory × ℕ} (frame : Frame byte cap out.1)
    (holds : Holds out.1 w) (length : out.2 = w.length) (room : w.length < cap) (text : Bytes) :
    Prints byte cap (appendText cap w text) (appendInto cap text out) := by
  rw [appendText, appendInto, length]
  have kept : Frame byte cap (printBounded out.1 w.length (cap - w.length) text) :=
    frame.printBounded (by omega) text
  split
  · exact .refused kept
  · rename_i short
    refine .fits ⟨kept, holds.printBounded (by omega), (List.length_append).symm, ?_⟩
    rw [List.length_append]
    omega

/-- A present key is appended, an absent one leaves the text alone. -/
theorem appendKeyInto_prints {τ : Type} (key : String) (value : Option τ) (render : τ → Bytes)
    {w : Bytes} {out : Memory × ℕ} (printed : Printed byte cap w out) :
    Prints byte cap
      ((value.map fun x => keyWord key (render x)).toList.foldlM
        (fun w word => appendText cap w (32 :: word)) w)
      (appendKeyInto cap key (value.map render) out) := by
  cases value with
  | none => exact .fits printed
  | some x =>
      simp only [Option.map_some, Option.toList_some, List.foldlM_cons, List.foldlM_nil, bind_pure]
      exact appendInto_prints printed.frame printed.holds printed.length printed.room _

section Codec

variable {δ : Type} [CDouble δ]

theorem appendMessageInto_prints (byte : ℕ → UInt8) (m : Message δ) (positive : 0 < cap) :
    Prints byte cap
      (appendText cap [] (roleTo m.role ++ 32 :: typeTo m.type) >>= fun head =>
        (keyWords m).foldlM (fun w word => appendText cap w (32 :: word)) head)
      (appendMessageInto m cap (Memory.initial byte)) := by
  refine (appendInto_prints (Frame.initial byte cap) (fun _ inside => absurd inside (by simp)) rfl
    positive _).bind fun printed => ?_
  simp only [keyWords, List.foldlM_append, bind_assoc]
  refine (appendKeyInto_prints "dev" m.dev _ printed).bind fun printed => ?_
  refine (appendKeyInto_prints "seq" m.seq _ printed).bind fun printed => ?_
  refine (appendKeyInto_prints "ok" m.ok _ printed).bind fun printed => ?_
  refine (appendKeyInto_prints "state" m.state _ printed).bind fun printed => ?_
  refine (appendKeyInto_prints "code" m.code _ printed).bind fun printed => ?_
  refine (appendKeyInto_prints "msg" m.msg _ printed).bind fun printed => ?_
  refine (appendKeyInto_prints "temp" m.temp _ printed).bind fun printed => ?_
  refine (appendKeyInto_prints "pressure" m.pressure _ printed).bind fun printed => ?_
  exact appendKeyInto_prints "flow" m.flow _ printed

/-- What the call leaves: the line with its NUL and the length of the line, or a refusal; in both
cases nothing at the capacity or beyond has been written. -/
inductive FormatsInto (byte : ℕ → UInt8) (cap : ℕ) : Option Bytes → Memory × Option ℕ → Prop where
  | done {line mem} (frame : Frame byte cap mem) (holds : Holds mem (line ++ [0])) :
      FormatsInto byte cap (some line) (mem, some line.length)
  | refused {mem} (frame : Frame byte cap mem) : FormatsInto byte cap none (mem, none)

/-- **The buffer version of `line_format` computes the text version.** -/
theorem lineFormatInto_refines (m : Message δ) (byte : ℕ → UInt8) (cap : ℕ) :
    FormatsInto byte cap (lineFormat m cap) (lineFormatInto m cap (Memory.initial byte)) := by
  rw [lineFormatInto, lineFormat]
  split
  · exact .refused (Frame.initial byte cap)
  · rename_i large
    have appended := appendMessageInto_prints byte m (show 0 < cap by omega)
    rw [← bind_assoc]
    revert appended
    generalize (appendText cap [] (roleTo m.role ++ 32 :: typeTo m.type) >>= fun head =>
      (keyWords m).foldlM (fun w word => appendText cap w (32 :: word)) head) = text
    generalize appendMessageInto m cap (Memory.initial byte) = out
    intro appended
    cases appended with
    | refused frame => exact .refused frame
    | @fits w out printed =>
        obtain ⟨mem, written⟩ := out
        obtain ⟨frame, holds, rfl, room⟩ := printed
        change FormatsInto byte cap (if cap < w.length + 2 then none else some (w ++ [10]))
          (if cap < w.length + 2 then (mem, none) else _)
        split
        · exact .refused frame
        · rename_i last
          have line : w.length + 1 = (w ++ [10]).length := by
            rw [List.length_append, List.length_singleton]
          rw [line]
          refine .done ?_ ((holds.store [10]).store [0])
          exact (frame.store (by simp; omega)).store (by simp; omega)

/-- **`line_format` never emits a truncated line**: it fails exactly when the complete text, a
newline and a NUL do not fit, or the capacity is below eight; otherwise the buffer holds just
these, and the result is the length of the line. No byte at the capacity or beyond is written. -/
theorem lineFormatInto_exact (m : Message δ) (byte : ℕ → UInt8) (cap : ℕ) :
    ((lineFormatInto m cap (Memory.initial byte)).2 = none ↔
      cap < 8 ∨ cap < (lineText m).length + 2) ∧
    (¬ (cap < 8 ∨ cap < (lineText m).length + 2) →
      (lineFormatInto m cap (Memory.initial byte)).2 = some ((lineText m).length + 1) ∧
      Holds (lineFormatInto m cap (Memory.initial byte)).1 (lineText m ++ [10, 0])) ∧
    (∀ i ∈ (lineFormatInto m cap (Memory.initial byte)).1.written, i < cap) ∧
    ∀ i, cap ≤ i → (lineFormatInto m cap (Memory.initial byte)).1.byte i = byte i := by
  have formats := lineFormatInto_refines m byte cap
  rw [lineFormat_eq] at formats
  revert formats
  generalize lineFormatInto m cap (Memory.initial byte) = result
  intro formats
  by_cases refuses : cap < 8 ∨ cap < (lineText m).length + 2
  · rw [if_pos refuses] at formats
    cases formats with
    | refused frame =>
        exact ⟨iff_of_true rfl refuses, fun fits => absurd refuses fits, frame.below,
          fun _ => frame.outside⟩
  · rw [if_neg refuses] at formats
    cases formats with
    | done frame holds =>
        refine ⟨iff_of_false (by simp) refuses, fun _ => ⟨?_, ?_⟩, frame.below,
          fun _ => frame.outside⟩
        · rw [List.length_append, List.length_singleton]
        · rwa [List.append_assoc] at holds

end Codec

end EquipmentControl
