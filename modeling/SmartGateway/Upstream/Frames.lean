import SmartGateway.Lib.Feed
import SmartGateway.Upstream.SseDecoder

/-! # The frames of a response

A response seen as a whole: its bytes cut at every blank line, and the events its frames stand
for. The cutter reads one byte at a time and never looks back, where `completeFrame` rescans the
buffer it is given; both find the same frames.
-/

namespace SmartGateway

namespace Upstream

/-! ## Cutting bytes at blank lines -/

/-- A frame, and the blank line that ends it. -/
structure Frame where
  content : Bytes
  blankLine : Bytes
deriving DecidableEq

/-- The bytes a frame occupies. -/
def Frame.size (frame : Frame) : Nat := frame.content.length + frame.blankLine.length

/-- The part of a frame read so far: its complete lines with their ends, and the line that has
not ended. -/
structure Cut where
  lines : Bytes
  line : Bytes

namespace Cut

def start : Cut := { lines := [], line := [] }

/-- The bytes of the frame read so far. -/
def tail (cut : Cut) : Bytes := cut.lines ++ cut.line

/-- A blank line, without its `\n`. -/
def Blank (line : Bytes) : Prop := line = [] ∨ line = [carriageReturn]

instance (line : Bytes) : Decidable (Blank line) :=
  inferInstanceAs (Decidable (line = [] ∨ line = [carriageReturn]))

/-- The cut after one more byte, and the frame that ends there. -/
def step (cut : Cut) (byte : UInt8) : Option Frame × Cut :=
  if byte ≠ newline then (none, { cut with line := cut.line ++ [byte] })
  else if Blank cut.line then
    (some { content := cut.lines, blankLine := cut.line ++ [newline] }, start)
  else (none, { lines := cut.lines ++ cut.line ++ [newline], line := [] })

@[simp] theorem tail_start : start.tail = [] := rfl

theorem step_inside (cut : Cut) {byte : UInt8} (hbyte : byte ≠ newline) :
    step cut byte = (none, { cut with line := cut.line ++ [byte] }) :=
  if_pos hbyte

theorem step_blank {cut : Cut} (hblank : Blank cut.line) :
    step cut newline =
      (some { content := cut.lines, blankLine := cut.line ++ [newline] }, start) := by
  rw [step, if_neg (fun h => h rfl), if_pos hblank]

theorem step_line {cut : Cut} (hblank : ¬Blank cut.line) :
    step cut newline =
      (none, { lines := cut.lines ++ cut.line ++ [newline], line := [] }) := by
  rw [step, if_neg (fun h => h rfl), if_neg hblank]

/-- The line test of the decoder. -/
theorem blank_iff (line : Bytes) :
    (if line.getLast? = some carriageReturn then line.dropLast else line).isEmpty = true ↔
      Blank line := by
  rw [List.isEmpty_iff, Blank]
  split
  · rename_i hlast
    rcases line with _ | ⟨byte, _ | ⟨next, rest⟩⟩
    · simp
    · simpa using hlast
    · simp
  · rename_i hlast
    constructor
    · exact Or.inl
    · rintro (hnil | hcr)
      · exact hnil
      · rw [hcr] at hlast
        exact absurd rfl hlast

end Cut

/-- The frames that end in some bytes, and what follows the last of them. -/
abbrev cutFrom (cut : Cut) (bytes : Bytes) : List Frame × Cut := feed Cut.step cut bytes

/-- The frames of some bytes. -/
def frames (bytes : Bytes) : List Frame := (cutFrom .start bytes).1

/-- The length of the frame a byte belongs to: the one that ends there, or the one that goes
on. -/
def Cut.kept : Option Frame × Cut → Nat
  | (some frame, _) => frame.size
  | (none, cut) => cut.tail.length

theorem Cut.kept_step (cut : Cut) (byte : UInt8) :
    kept (cut.step byte) = cut.tail.length + 1 := by
  by_cases hbyte : byte = newline
  · subst hbyte
    by_cases hblank : Blank cut.line
    · simp [step_blank hblank, kept, Frame.size, tail, Nat.add_assoc]
    · simp [step_line hblank, kept, tail, Nat.add_assoc]
  · simp [step_inside cut hbyte, kept, tail, Nat.add_assoc]

theorem Cut.step_ends {cut : Cut} {byte : UInt8} {frame : Frame}
    (h : (cut.step byte).1 = some frame) : (cut.step byte).2 = start := by
  unfold step at h ⊢
  split at h
  · cases h
  · split at h
    · rename_i hbyte hblank
      rw [if_neg hbyte, if_pos hblank]
    · cases h

theorem Cut.tail_length_step (cut : Cut) (byte : UInt8) :
    (cut.step byte).2.tail.length ≤ cut.tail.length + 1 := by
  have hkept := cut.kept_step byte
  rcases hstep : (cut.step byte).1 with _ | frame
  · rw [← hkept, ← Prod.eta (cut.step byte), hstep]
    exact Nat.le_refl _
  · rw [step_ends hstep]
    exact Nat.zero_le _

/-- Bytes inside a line are only taken. -/
theorem cutFrom_line (cut : Cut) {bytes : Bytes} (h : newline ∉ bytes) :
    cutFrom cut bytes = ([], { cut with line := cut.line ++ bytes }) := by
  induction bytes generalizing cut with
  | nil => rw [List.append_nil]; rfl
  | cons byte bytes ih =>
    rw [List.mem_cons, not_or] at h
    rw [cutFrom, feed_cons, Cut.step_inside cut (Ne.symm h.1)]
    change ([] ++ (cutFrom _ bytes).1, (cutFrom _ bytes).2) = _
    rw [ih _ h.2, List.append_assoc]
    rfl

/-- A frame of one line. -/
theorem cutFrom_oneLine {line : Bytes} (hline : newline ∉ line) (hblank : ¬Cut.Blank line) :
    cutFrom .start (line ++ [newline, newline]) =
      ([{ content := line ++ [newline], blankLine := [newline] }], .start) := by
  rw [cutFrom, feed_append, ← cutFrom, cutFrom_line _ hline]
  change (([] : List Frame) ++ (feed Cut.step { lines := [], line } [newline, newline]).1,
    (feed Cut.step { lines := [], line } [newline, newline]).2) = _
  rw [feed_cons, Cut.step_line hblank, feed_cons, Cut.step_blank (Or.inl rfl)]
  rfl

theorem Cut.tail_length_le (cut : Cut) (bytes : Bytes) :
    (cutFrom cut bytes).2.tail.length ≤ cut.tail.length + bytes.length := by
  induction bytes generalizing cut with
  | nil => exact Nat.le_refl _
  | cons byte bytes ih =>
    have hstep := cut.tail_length_step byte
    have hrest := ih (cut.step byte).2
    rw [List.length_cons]
    calc (cutFrom (cut.step byte).2 bytes).2.tail.length
        ≤ (cut.step byte).2.tail.length + bytes.length := hrest
      _ ≤ cut.tail.length + (bytes.length + 1) := by omega

/-- The frame that is being cut becomes a part of the next frame, or of the tail. -/
theorem Cut.tail_le {cut : Cut} {bytes : Bytes} {limit : Nat}
    (hframes : ∀ frame ∈ (cutFrom cut bytes).1, frame.size ≤ limit)
    (htail : (cutFrom cut bytes).2.tail.length ≤ limit) : cut.tail.length ≤ limit := by
  induction bytes generalizing cut with
  | nil => exact htail
  | cons byte bytes ih =>
    rw [cutFrom, feed_cons] at hframes htail
    have hnext := ih (fun frame h => hframes frame (List.mem_append_right _ h)) htail
    have hkept := cut.kept_step byte
    rcases hstep : cut.step byte with ⟨_ | frame, cut'⟩
    · rw [hstep] at hnext hkept
      simp only [kept] at hkept hnext
      omega
    · rw [hstep] at hframes hkept
      have hframe := hframes frame List.mem_cons_self
      simp only [kept] at hkept
      omega

/-! ## The scan of the decoder -/

/-- What a scan of a buffer finds is what the cut makes of it. -/
def Scanned (buffer : Bytes) (cut : List Frame × Cut) : Option (Nat × Nat) → Prop
  | none => cut.1 = [] ∧ cut.2.tail = buffer
  | some (frameEnd, consumed) =>
    (∃ blankLine, cut.1 =
      { content := buffer.take frameEnd, blankLine } :: frames (buffer.drop consumed)) ∧
      cut.2 = (cutFrom .start (buffer.drop consumed)).2

/-- The scan from the state of a cut goes where the cut goes. -/
theorem scanned_from (cut : Cut) (rest : Bytes) :
    Scanned (cut.tail ++ rest) (cutFrom cut rest)
      (completeFrameFrom (cut.tail ++ rest) cut.lines.length cut.tail.length rest) := by
  -- Along the bytes not yet scanned; the cut holds the ones before.
  induction rest generalizing cut with
  | nil => exact ⟨rfl, (List.append_nil _).symm⟩
  | cons byte rest ih =>
    rw [completeFrameFrom]
    by_cases hbyte : byte ≠ newline
    · -- inside a line: the scan goes on, and the cut takes the byte
      rw [if_pos hbyte, cutFrom, feed_cons, Cut.step_inside cut hbyte]
      have hnext := ih { cut with line := cut.line ++ [byte] }
      simp only [Cut.tail, List.append_assoc, List.length_append, List.length_singleton,
        List.singleton_append] at hnext ⊢
      simpa [Nat.add_assoc] using hnext
    · have hend : byte = newline := not_not.mp hbyte
      subst hend
      rw [if_neg hbyte]
      have hline : ((cut.tail ++ newline :: rest).take cut.tail.length).drop cut.lines.length =
          cut.line := by
        rw [List.take_left, Cut.tail, List.drop_left]
      simp only [hline]
      by_cases hblank : Cut.Blank cut.line
      · -- the end of a frame: what follows is cut afresh
        rw [if_pos ((Cut.blank_iff _).mpr hblank), cutFrom, feed_cons, Cut.step_blank hblank]
        have htake : (cut.tail ++ newline :: rest).take cut.lines.length = cut.lines := by
          rw [Cut.tail, List.append_assoc, List.take_left]
        have hdrop : (cut.tail ++ newline :: rest).drop (cut.tail.length + 1) = rest := by
          rw [← List.singleton_append, ← List.append_assoc]
          exact List.drop_left' (by simp)
        constructor
        · refine ⟨cut.line ++ [newline], ?_⟩
          rw [htake, hdrop]
          rfl
        · rw [hdrop]
      · -- the end of a line that is not blank
        rw [if_neg (fun h => hblank ((Cut.blank_iff _).mp h)), cutFrom, feed_cons,
          Cut.step_line hblank]
        have hnext := ih { lines := cut.lines ++ cut.line ++ [newline], line := [] }
        simp only [Cut.tail, List.append_assoc, List.length_append, List.length_singleton,
          List.singleton_append, List.append_nil] at hnext ⊢
        simpa [Nat.add_assoc] using hnext

theorem scanned (buffer : Bytes) :
    Scanned buffer (cutFrom .start buffer) (completeFrame buffer) :=
  scanned_from .start buffer

/-- The decoder finds no frame in its buffer where none ends, and the buffer is then the
unterminated part. -/
theorem frames_of_completeFrame_none {buffer : Bytes} (h : completeFrame buffer = none) :
    frames buffer = [] ∧ (cutFrom .start buffer).2.tail = buffer := by
  have hscan := scanned buffer
  rw [h] at hscan
  exact hscan

/-- The frame the decoder takes is the first of its buffer, and it leaves the others. -/
theorem frames_of_completeFrame {buffer : Bytes} {frameEnd consumed : Nat}
    (h : completeFrame buffer = some (frameEnd, consumed)) :
    (∃ blankLine, frames buffer =
      { content := buffer.take frameEnd, blankLine } :: frames (buffer.drop consumed)) ∧
      (cutFrom .start buffer).2 = (cutFrom .start (buffer.drop consumed)).2 := by
  have hscan := scanned buffer
  rw [h] at hscan
  exact hscan

theorem frames_append (first rest : Bytes) :
    frames (first ++ rest) = frames first ++ (cutFrom (cutFrom .start first).2 rest).1 := by
  rw [frames, cutFrom, feed_append]
  rfl

/-- What follows the buffer does not change the frame the decoder takes. -/
theorem frames_of_completeFrame_append {buffer : Bytes} {frameEnd consumed : Nat}
    (h : completeFrame buffer = some (frameEnd, consumed)) (rest : Bytes) :
    ∃ blankLine, frames (buffer ++ rest) =
      { content := buffer.take frameEnd, blankLine } ::
        frames (buffer.drop consumed ++ rest) := by
  rcases frames_of_completeFrame h with ⟨⟨blankLine, hframes⟩, hcut⟩
  refine ⟨blankLine, ?_⟩
  rw [frames_append, frames_append, hframes, hcut, List.cons_append]

/-! ## The events of a response -/

variable {Chunk : Type}

/-- The events of some frames, and whether one of them ended the stream: a frame without data
stands for no event, and nothing is looked at after the first frame that is terminal or cannot
be decoded. -/
def outcome (codec : ChunkCodec Chunk) (clock : Option Nat) :
    List Frame → List (InferenceStreamEvent Chunk) × Bool
  | [] => ([], false)
  | frame :: rest =>
    match decodeFrame codec clock frame.content with
    | .ok none => outcome codec clock rest
    | .ok (some (.frame chunk)) =>
      (.frame chunk :: (outcome codec clock rest).1, (outcome codec clock rest).2)
    | .ok (some event) => ([event], true)
    | .error category => ([.failed (sanitizedFailure clock category)], true)

/-- The failure of a stream that is cut off. -/
def truncated (clock : Option Nat) : InferenceStreamEvent Chunk :=
  .failed (sanitizedFailure clock .providerUnavailable)

/-- The events of a whole response, decoded at an instant: its frames up to the one that ends
the stream, or the failure of a response that has none. -/
def reference (codec : ChunkCodec Chunk) (clock : Option Nat) (bytes : Bytes) :
    List (InferenceStreamEvent Chunk) :=
  let (events, stopped) := outcome codec clock (frames bytes)
  if stopped then events else events ++ [truncated clock]

/-- An event without the instant a failure suggests for a retry, which depends on the clock. -/
def untimed : InferenceStreamEvent Chunk → InferenceStreamEvent Chunk
  | .failed failure => .failed { failure with retryAtUnix := none }
  | event => event

theorem decodeData_untimed (codec : ChunkCodec Chunk) (clock clock' : Option Nat)
    (data : List Char) :
    (decodeData codec clock data).map (Option.map untimed) =
      (decodeData codec clock' data).map (Option.map untimed) := by
  unfold decodeData
  split
  · rfl
  · split
    · rfl
    · split
      · rfl
      · split
        · rfl
        · rfl

theorem decodeFrame_untimed (codec : ChunkCodec Chunk) (clock clock' : Option Nat)
    (frame : Bytes) :
    (decodeFrame codec clock frame).map (Option.map untimed) =
      (decodeFrame codec clock' frame).map (Option.map untimed) := by
  unfold decodeFrame
  split
  · rfl
  · split
    · rfl
    · exact decodeData_untimed codec clock clock' _

theorem decodeFrame_none {codec : ChunkCodec Chunk} {clock : Option Nat} {frame : Bytes}
    (h : decodeFrame codec clock frame = .ok none) (clock' : Option Nat) :
    decodeFrame codec clock' frame = .ok none := by
  have hdecode := decodeFrame_untimed codec clock clock' frame
  rw [h] at hdecode
  rcases hframe : decodeFrame codec clock' frame with category | _ | event
  · simp [hframe, Except.map] at hdecode
  · rfl
  · simp [hframe, Except.map] at hdecode

theorem decodeFrame_chunk {codec : ChunkCodec Chunk} {clock : Option Nat} {frame : Bytes}
    {chunk : Chunk} (h : decodeFrame codec clock frame = .ok (some (.frame chunk)))
    (clock' : Option Nat) : decodeFrame codec clock' frame = .ok (some (.frame chunk)) := by
  have hdecode := decodeFrame_untimed codec clock clock' frame
  rw [h] at hdecode
  rcases hframe : decodeFrame codec clock' frame with category | _ | (chunk' | _ | failure) <;>
    simp_all [Except.map, untimed]

/-- The clock decides nothing but the retry time of the last event. -/
theorem outcome_untimed (codec : ChunkCodec Chunk) (clock clock' : Option Nat)
    (frames : List Frame) :
    (outcome codec clock frames).1.map untimed = (outcome codec clock' frames).1.map untimed ∧
      (outcome codec clock frames).2 = (outcome codec clock' frames).2 := by
  induction frames with
  | nil => exact ⟨rfl, rfl⟩
  | cons frame rest ih =>
    have hdecode := decodeFrame_untimed codec clock clock' frame.content
    rw [outcome, outcome]
    generalize decodeFrame codec clock frame.content = here at hdecode
    generalize decodeFrame codec clock' frame.content = there at hdecode
    rcases here with category | _ | (chunk | _ | failure) <;>
      rcases there with category' | _ | (chunk' | _ | failure') <;>
      simp_all [Except.map, untimed, sanitizedFailure]

end Upstream

end SmartGateway
