import SmartGateway.Lib.Transition
import SmartGateway.Upstream.SseDecoder

/-! # The contract of the decoder

`OpenAiSseDecoder` over any source: a poll of the source can return anything at any time, for
ever. One step is one pass through the loop of `poll_next`, so a reachable state can lie within
a poll. A measure of what can still be read bounds the passes a poll makes before it returns,
and, where the source ends, the passes before the terminal event.
-/

namespace SmartGateway

namespace Upstream

variable {Chunk : Type}

/-! ## The decoder over any source -/

/-- What the polls of a byte stream return, one after the other. -/
abbrev ByteSource := Nat → SourcePoll

/-- The state of the decoder, with the number of times it has polled its source. -/
structure SourceDecoder where
  polled : Nat
  buffer : Bytes
  terminal : Bool

/-- What a pass through the loop comes to: `none` where the loop goes on, otherwise what
`poll_next` returns. -/
abbrev Pass (Chunk : Type) := Option (Poll (Option (InferenceStreamEvent Chunk)))

namespace SourceDecoder

def new : SourceDecoder := { polled := 0, buffer := [], terminal := false }

def fail (decoder : SourceDecoder) (clock : Option Nat) (category : ErrorCategory) :
    Pass Chunk × SourceDecoder :=
  (some (.ready (some (.failed (sanitizedFailure clock category)))),
    { decoder with buffer := [], terminal := true })

/-- One pass through the loop of `poll_next`. -/
def pass (codec : ChunkCodec Chunk) (source : ByteSource) (clock : Option Nat)
    (decoder : SourceDecoder) : Pass Chunk × SourceDecoder :=
  if decoder.terminal then (some (.ready none), decoder)
  else
    match completeFrame decoder.buffer with
    | some (frameEnd, consumed) =>
      let frame := decoder.buffer.take frameEnd
      let decoder := { decoder with buffer := decoder.buffer.drop consumed }
      match decodeFrame codec clock frame with
      | .ok none => (none, decoder)
      | .ok (some (.frame chunk)) => (some (.ready (some (.frame chunk))), decoder)
      | .ok (some event) =>
        (some (.ready (some event)), { decoder with buffer := [], terminal := true })
      | .error category => decoder.fail clock category
    | none =>
      if decoder.buffer.length > maxSseFrameBytes then decoder.fail clock .providerUnavailable
      else
        let result := source decoder.polled
        let decoder := { decoder with polled := decoder.polled + 1 }
        match result with
        | .ready (some (.ok chunk)) =>
          if chunk.length > maxSseFrameBytes - decoder.buffer.length then
            decoder.fail clock .providerUnavailable
          else (none, { decoder with buffer := decoder.buffer ++ chunk })
        | .ready _ => decoder.fail clock .providerUnavailable
        | .pending => (some .pending, decoder)

section Pass

variable {codec : ChunkCodec Chunk} {source : ByteSource} {clock : Option Nat}
  {decoder : SourceDecoder}

theorem pass_closed (hterminal : decoder.terminal = true) :
    decoder.pass codec source clock = (some (.ready none), decoder) := by
  rw [pass, if_pos hterminal]

/-- With a frame in the buffer, a pass does not poll the source. -/
theorem pass_frame (hopen : ¬ decoder.terminal = true) {frameEnd consumed : Nat}
    (hframe : completeFrame decoder.buffer = some (frameEnd, consumed)) :
    decoder.pass codec source clock =
      match decodeFrame codec clock (decoder.buffer.take frameEnd) with
      | .ok none => (none, { decoder with buffer := decoder.buffer.drop consumed })
      | .ok (some (.frame chunk)) =>
        (some (.ready (some (.frame chunk))),
          { decoder with buffer := decoder.buffer.drop consumed })
      | .ok (some event) =>
        (some (.ready (some event)), { decoder with buffer := [], terminal := true })
      | .error category => decoder.fail clock category := by
  rw [pass, if_neg hopen, hframe]
  rfl

theorem pass_full (hopen : ¬ decoder.terminal = true)
    (hframe : completeFrame decoder.buffer = none)
    (hlength : decoder.buffer.length > maxSseFrameBytes) :
    decoder.pass codec source clock = decoder.fail clock .providerUnavailable := by
  rw [pass, if_neg hopen, hframe]
  exact if_pos hlength

/-- Without one, a pass is a poll of the source. -/
theorem pass_poll (hopen : ¬ decoder.terminal = true)
    (hframe : completeFrame decoder.buffer = none)
    (hlength : ¬ decoder.buffer.length > maxSseFrameBytes) :
    decoder.pass codec source clock =
      match source decoder.polled with
      | .ready (some (.ok chunk)) =>
        if chunk.length > maxSseFrameBytes - decoder.buffer.length then
          ({ decoder with polled := decoder.polled + 1 } : SourceDecoder).fail clock
            .providerUnavailable
        else (none, { decoder with polled := decoder.polled + 1, buffer := decoder.buffer ++ chunk })
      | .ready _ =>
        ({ decoder with polled := decoder.polled + 1 } : SourceDecoder).fail clock
          .providerUnavailable
      | .pending => (some .pending, { decoder with polled := decoder.polled + 1 }) := by
  rw [pass, if_neg hopen, hframe]
  exact if_neg hlength

end Pass

end SourceDecoder

/-- The runs of a decoder over a source: any number of passes, each at any instant. A poll is
the passes up to the next result. -/
def decoding (codec : ChunkCodec Chunk) (source : ByteSource) :
    Transition SourceDecoder (Pass Chunk) where
  Init decoder := decoder = .new
  Step decoder result decoder' := ∃ clock, decoder.pass codec source clock = (result, decoder')

/-! ## What a pass can do -/

/-- An event that ends a stream. -/
def IsTerminal : InferenceStreamEvent Chunk → Prop
  | .frame _ => False
  | .completed | .failed _ => True

/-- The outcomes of a pass. -/
inductive Passes (source : ByteSource) (decoder : SourceDecoder) :
    Pass Chunk → SourceDecoder → Prop where
  /-- After a terminal event. -/
  | closed (hterminal : decoder.terminal = true) :
    Passes source decoder (some (.ready none)) decoder
  /-- A frame without data is taken off the buffer. -/
  | skips {buffer : Bytes} (hopen : decoder.terminal = false)
    (hbuffer : buffer.length < decoder.buffer.length) :
    Passes source decoder none { decoder with buffer }
  | emits {buffer : Bytes} (chunk : Chunk) (hopen : decoder.terminal = false)
    (hbuffer : buffer.length < decoder.buffer.length) :
    Passes source decoder (some (.ready (some (.frame chunk)))) { decoder with buffer }
  | ends {event : InferenceStreamEvent Chunk} {polled : Nat} (hopen : decoder.terminal = false)
    (hevent : IsTerminal event) :
    Passes source decoder (some (.ready (some event)))
      { polled, buffer := [], terminal := true }
  | waits (hopen : decoder.terminal = false) (hsource : source decoder.polled = .pending) :
    Passes source decoder (some .pending) { decoder with polled := decoder.polled + 1 }
  | reads {chunk : Bytes} (hopen : decoder.terminal = false)
    (hsource : source decoder.polled = .ready (some (.ok chunk)))
    (hfits : decoder.buffer.length + chunk.length ≤ maxSseFrameBytes) :
    Passes source decoder none
      { decoder with polled := decoder.polled + 1, buffer := decoder.buffer ++ chunk }

theorem passes_fail {source : ByteSource} {decoder : SourceDecoder}
    (hopen : decoder.terminal = false) (polled : Nat) (buffer : Bytes) (clock : Option Nat)
    (category : ErrorCategory) :
    Passes source decoder
      (({ decoder with polled, buffer } : SourceDecoder).fail clock category : Pass Chunk × _).1
      (({ decoder with polled, buffer } : SourceDecoder).fail clock category : Pass Chunk × _).2 :=
  .ends hopen trivial

theorem passes_pass (codec : ChunkCodec Chunk) (source : ByteSource) (clock : Option Nat)
    (decoder : SourceDecoder) :
    Passes source decoder (decoder.pass codec source clock).1
      (decoder.pass codec source clock).2 := by
  by_cases hterminal : decoder.terminal = true
  · rw [SourceDecoder.pass_closed hterminal]
    exact .closed hterminal
  · have hopen : decoder.terminal = false := Bool.eq_false_iff.mpr hterminal
    cases hframe : completeFrame decoder.buffer with
    | some found =>
      obtain ⟨frameEnd, consumed⟩ := found
      -- a frame takes at least its blank line off the buffer
      have hconsumed := completeFrame_consumed hframe
      have hdrop : (decoder.buffer.drop consumed).length < decoder.buffer.length := by
        rw [List.length_drop]
        omega
      rw [SourceDecoder.pass_frame hterminal hframe]
      cases decodeFrame codec clock (decoder.buffer.take frameEnd) with
      | error category => exact passes_fail hopen _ _ clock category
      | ok decoded =>
        rcases decoded with _ | (chunk | _ | failure)
        · exact .skips hopen hdrop
        · exact .emits chunk hopen hdrop
        · exact .ends hopen trivial
        · exact .ends hopen trivial
    | none =>
      by_cases hlength : decoder.buffer.length > maxSseFrameBytes
      · rw [SourceDecoder.pass_full hterminal hframe hlength]
        exact passes_fail hopen _ _ clock _
      · rw [SourceDecoder.pass_poll hterminal hframe hlength]
        cases hsource : source decoder.polled with
        | pending => exact .waits hopen hsource
        | ready item =>
          rcases item with _ | (_ | chunk)
          · exact passes_fail hopen _ _ clock _
          · exact passes_fail hopen _ _ clock _
          · dsimp only
            by_cases hchunk : chunk.length > maxSseFrameBytes - decoder.buffer.length
            · rw [if_pos hchunk]
              exact passes_fail hopen _ _ clock _
            · rw [if_neg hchunk]
              exact .reads hopen hsource (by omega)

theorem passes_of_step {codec : ChunkCodec Chunk} {source : ByteSource}
    {decoder decoder' : SourceDecoder} {result : Pass Chunk}
    (h : (decoding codec source).Step decoder result decoder') :
    Passes source decoder result decoder' := by
  obtain ⟨clock, hpass⟩ := h
  have hpasses := passes_pass codec source clock decoder
  rw [hpass] at hpasses
  exact hpasses

/-! ## The invariant of a run -/

/-- The events a run has emitted. -/
def emitted (results : List (Pass Chunk)) : List (InferenceStreamEvent Chunk) :=
  results.filterMap fun
    | some (.ready event) => event
    | _ => none

/-- What holds after any run: the buffer is bounded, and empty once a terminal event was
emitted; the events are frames, and at their end the terminal one if there was one. -/
structure WithinContract (results : List (Pass Chunk)) (decoder : SourceDecoder) : Prop where
  bounded : decoder.buffer.length ≤ maxSseFrameBytes
  emptied : decoder.terminal = true → decoder.buffer = []
  events : ∃ (chunks : List Chunk) (ending : List (InferenceStreamEvent Chunk)),
    emitted results = chunks.map .frame ++ ending ∧
    (decoder.terminal = false ∧ ending = [] ∨
      decoder.terminal = true ∧ ∃ event, IsTerminal event ∧ ending = [event])

section Runs

variable {codec : ChunkCodec Chunk} {source : ByteSource} {decoder decoder' : SourceDecoder}
  {results : List (Pass Chunk)} {result : Pass Chunk}

theorem emitted_append (results : List (Pass Chunk)) (result : Pass Chunk) :
    emitted (results ++ [result]) = emitted results ++ emitted [result] :=
  List.filterMap_append

/-- A pass keeps the contract. -/
theorem WithinContract.pass (h : WithinContract results decoder)
    (hpass : Passes source decoder result decoder') :
    WithinContract (results ++ [result]) decoder' := by
  obtain ⟨chunks, ending, hevents, hending⟩ := h.events
  have hbounded := h.bounded
  -- an open decoder has emitted no terminal event, and one that emits it is closed
  cases hpass with
  | closed hterminal =>
    refine ⟨hbounded, h.emptied, chunks, ending, ?_, hending⟩
    rw [emitted_append, hevents]
    exact List.append_nil _
  | skips hopen hbuffer =>
    refine ⟨?_, ?_, chunks, ending, ?_, hending⟩
    · dsimp only
      omega
    · intro hterminal
      rw [hopen] at hterminal
      cases hterminal
    · rw [emitted_append, hevents]
      exact List.append_nil _
  | emits chunk hopen hbuffer =>
    refine ⟨?_, ?_, chunks ++ [chunk], ending, ?_, hending⟩
    · dsimp only
      omega
    · intro hterminal
      rw [hopen] at hterminal
      cases hterminal
    · -- no terminal event came before
      rcases hending with ⟨-, rfl⟩ | ⟨hterminal, -⟩
      · rw [emitted_append, hevents, List.map_append, List.append_nil, List.append_nil]
        rfl
      · rw [hopen] at hterminal
        cases hterminal
  | @ends event polled hopen hevent =>
    refine ⟨Nat.zero_le _, fun _ => rfl, chunks, [event], ?_, Or.inr ⟨rfl, event, hevent, rfl⟩⟩
    rcases hending with ⟨-, rfl⟩ | ⟨hterminal, -⟩
    · rw [emitted_append, hevents, List.append_nil]
      rfl
    · rw [hopen] at hterminal
      cases hterminal
  | waits hopen hsource =>
    refine ⟨hbounded, h.emptied, chunks, ending, ?_, hending⟩
    rw [emitted_append, hevents]
    exact List.append_nil _
  | reads hopen hsource hfits =>
    refine ⟨?_, ?_, chunks, ending, ?_, hending⟩
    · rw [List.length_append]
      exact hfits
    · intro hterminal
      rw [hopen] at hterminal
      cases hterminal
    · rw [emitted_append, hevents]
      exact List.append_nil _

theorem withinContract_new : WithinContract ([] : List (Pass Chunk)) .new where
  bounded := Nat.zero_le _
  emptied _ := rfl
  events := ⟨[], [], rfl, Or.inl ⟨rfl, rfl⟩⟩

theorem withinContract_of_steps (h : (decoding codec source).Steps .new results decoder) :
    WithinContract results decoder := by
  induction h with
  | refl => exact withinContract_new
  | tail _ hlast ih => exact ih.pass (passes_of_step hlast)

/-- After the terminal event every poll returns `None` at once and leaves everything as it is. -/
theorem closed_of_steps (h : (decoding codec source).Steps decoder results decoder')
    (hterminal : decoder.terminal = true) :
    decoder' = decoder ∧ ∀ result ∈ results, result = some (.ready none) := by
  induction h with
  | refl =>
    refine ⟨rfl, ?_⟩
    intro result hresult
    cases hresult
  | @tail mid last results result _ hlast ih =>
    obtain ⟨rfl, hresults⟩ := ih
    -- only the pass of a closed decoder starts in a terminal state
    have hpasses := passes_of_step hlast
    cases hpasses with
    | closed =>
      refine ⟨rfl, ?_⟩
      intro result hresult
      rcases List.mem_append.mp hresult with hresult | hresult
      · exact hresults result hresult
      · exact List.mem_singleton.mp hresult
    | skips hopen _ => rw [hterminal] at hopen; cases hopen
    | emits _ hopen _ => rw [hterminal] at hopen; cases hopen
    | ends hopen _ => rw [hterminal] at hopen; cases hopen
    | waits hopen _ => rw [hterminal] at hopen; cases hopen
    | reads hopen _ _ => rw [hterminal] at hopen; cases hopen

/-! ## How long a decoder can go on -/

/-- What the decoder can still go through before poll `limit` of its source: a full buffer for
each poll, and the bytes it has. -/
def SourceDecoder.left (decoder : SourceDecoder) (limit : Nat) : Nat :=
  (limit - decoder.polled) * (maxSseFrameBytes + 1) + decoder.buffer.length

/-- A poll of the source takes more off than the bytes it brings. -/
theorem left_read {limit : Nat} (hpolled : decoder.polled < limit) {buffer : Bytes}
    (hbuffer : buffer.length ≤ decoder.buffer.length + maxSseFrameBytes) :
    ({ decoder with polled := decoder.polled + 1, buffer } : SourceDecoder).left limit <
      decoder.left limit := by
  obtain ⟨more, hmore⟩ : ∃ more, limit - decoder.polled = more + 1 :=
    ⟨limit - decoder.polled - 1, by omega⟩
  have hrest : limit - (decoder.polled + 1) = more := by omega
  unfold SourceDecoder.left
  dsimp only
  rw [hmore, hrest, Nat.succ_mul]
  omega

/-- A pass after which the loop goes on leaves less to go through, as long as nothing is ready
from poll `limit` on. -/
theorem left_goes_on {limit : Nat} (hlimit : ∀ k, limit ≤ k → source k = .pending)
    (h : Passes source decoder (none : Pass Chunk) decoder') :
    decoder'.left limit < decoder.left limit := by
  cases h with
  | skips hopen hbuffer =>
    unfold SourceDecoder.left
    dsimp only
    omega
  | reads hopen hsource hfits =>
    apply left_read
    · by_contra hpolled
      rw [hlimit decoder.polled (by omega)] at hsource
      cases hsource
    · rw [List.length_append]
      omega

/-- The passes of a poll that has not returned yet. -/
theorem passes_bounded {limit : Nat} (hlimit : ∀ k, limit ≤ k → source k = .pending)
    (h : (decoding codec source).Steps decoder results decoder')
    (hresults : ∀ result ∈ results, result = none) :
    results.length + decoder'.left limit ≤ decoder.left limit := by
  induction h with
  | refl => exact Nat.le_of_eq (Nat.zero_add _)
  | @tail mid last results result _ hlast ih =>
    have hmid := ih fun result hresult => hresults result (List.mem_append_left _ hresult)
    have hnone : result = none := hresults result (by simp)
    subst hnone
    have hless := left_goes_on hlimit (passes_of_step hlast)
    rw [List.length_append, List.length_singleton]
    omega

/-- Before the end of the source every pass of an open decoder leaves less to go through. -/
theorem left_before_end {last : Nat} (hend : source last = .ready none)
    (hpolled : decoder.polled ≤ last) (hopen : decoder.terminal = false)
    (h : Passes source decoder result decoder') :
    decoder'.terminal = true ∨
      decoder'.terminal = false ∧ decoder'.polled ≤ last ∧
        decoder'.left (last + 1) < decoder.left (last + 1) := by
  -- a poll that the source answers otherwise is one before the end
  have hbefore : source decoder.polled ≠ .ready none → decoder.polled < last := by
    intro hother
    apply Nat.lt_of_le_of_ne hpolled
    intro heq
    rw [heq] at hother
    exact hother hend
  cases h with
  | closed hterminal => exact Or.inl hterminal
  | ends _ _ => exact Or.inl rfl
  | skips _ hbuffer =>
    refine Or.inr ⟨hopen, hpolled, ?_⟩
    unfold SourceDecoder.left
    dsimp only
    omega
  | emits chunk _ hbuffer =>
    refine Or.inr ⟨hopen, hpolled, ?_⟩
    unfold SourceDecoder.left
    dsimp only
    omega
  | waits _ hsource =>
    have hless := hbefore (by rw [hsource]; nofun)
    refine Or.inr ⟨hopen, hless, left_read (by omega) (by omega)⟩
  | reads _ hsource hfits =>
    have hless := hbefore (by rw [hsource]; nofun)
    refine Or.inr ⟨hopen, hless, left_read (by omega) ?_⟩
    rw [List.length_append]
    omega

/-- A run over a source that ends is either over, or still short of the bound. -/
theorem terminal_of_end {last : Nat} (hend : source last = .ready none)
    {start : SourceDecoder} (hopen : start.terminal = false) (hpolled : start.polled ≤ last)
    (h : (decoding codec source).Steps start results decoder) :
    decoder.terminal = true ∨ decoder.terminal = false ∧ decoder.polled ≤ last ∧
      results.length + decoder.left (last + 1) ≤ start.left (last + 1) := by
  induction h with
  | refl => exact Or.inr ⟨hopen, hpolled, Nat.le_of_eq (Nat.zero_add _)⟩
  | tail hsteps hlast ih =>
    have hpasses := passes_of_step hlast
    rcases ih with hterminal | ⟨hopen, hpolled, hleft⟩
    · have hclosed := closed_of_steps (Transition.Steps.tail (.refl _) hlast) hterminal
      rw [hclosed.1]
      exact Or.inl hterminal
    · rcases left_before_end hend hpolled hopen hpasses with hterminal | ⟨hopen', hpolled', hless⟩
      · exact Or.inl hterminal
      · refine Or.inr ⟨hopen', hpolled', ?_⟩
        rw [List.length_append, List.length_singleton]
        omega

/-- Every state can make a pass, at any instant. -/
theorem exists_step (codec : ChunkCodec Chunk) (source : ByteSource) (decoder : SourceDecoder)
    (clock : Option Nat) :
    ∃ result decoder', decoder.pass codec source clock = (result, decoder') ∧
      (decoding codec source).Step decoder result decoder' :=
  ⟨_, _, rfl, clock, rfl⟩

end Runs

/-- Over every source and along every run: the events are frames with at most one terminal event
behind them, after which a poll returns `None` at once, polls nothing and retains nothing; no
more than a frame is retained at any time; a poll returns after a bounded number of passes where
finitely many polls of the source are ready; and where the source ends, so does the stream, with
one terminal event. -/
theorem decoder_contract (codec : ChunkCodec Chunk) (source : ByteSource) :
    (∀ results decoder, (decoding codec source).Steps .new results decoder →
      WithinContract results decoder ∧
      (decoder.terminal = true → ∀ later decoder',
        (decoding codec source).Steps decoder later decoder' →
          decoder' = decoder ∧ ∀ result ∈ later, result = some (.ready none))) ∧
    ((∃ limit, ∀ k, limit ≤ k → source k = .pending) →
      ∀ decoder, ∃ bound, ∀ results decoder',
        (decoding codec source).Steps decoder results decoder' →
        (∀ result ∈ results, result = none) → results.length ≤ bound) ∧
    (∀ decoder, ∃ result decoder', (decoding codec source).Step decoder result decoder') ∧
    ((∃ last, source last = .ready none) →
      ∃ bound, ∀ results decoder, (decoding codec source).Steps .new results decoder →
        bound < results.length → ∃ (chunks : List Chunk) (event : InferenceStreamEvent Chunk),
          IsTerminal event ∧ emitted results = chunks.map .frame ++ [event] ∧
          decoder.terminal = true) := by
  refine ⟨?_, ?_, ?_, ?_⟩
  · intro results decoder h
    refine ⟨withinContract_of_steps h, ?_⟩
    intro hterminal later decoder' hlater
    exact closed_of_steps hlater hterminal
  · rintro ⟨limit, hlimit⟩ decoder
    refine ⟨decoder.left limit, ?_⟩
    intro results decoder' h hresults
    have hbounded := passes_bounded hlimit h hresults
    omega
  · intro decoder
    obtain ⟨result, decoder', -, hstep⟩ := exists_step codec source decoder none
    exact ⟨result, decoder', hstep⟩
  · rintro ⟨last, hend⟩
    refine ⟨SourceDecoder.new.left (last + 1), ?_⟩
    intro results decoder h hlong
    -- a run that long has come past the end of the source
    have hcontract := withinContract_of_steps h
    rcases terminal_of_end hend rfl (Nat.zero_le _) h with hterminal | ⟨-, -, hshort⟩
    · obtain ⟨chunks, ending, hevents, hending⟩ := hcontract.events
      rcases hending with ⟨hopen, -⟩ | ⟨-, event, hevent, rfl⟩
      · rw [hterminal] at hopen
        cases hopen
      · exact ⟨chunks, event, hevent, hevents, hterminal⟩
    · omega

/-! ## The decoder over a list -/

/-- What the polls of a list of results return; there is nothing after them. -/
def listed (results : List SourcePoll) : ByteSource := fun k => results.getD k .pending

/-- `decoder` is where `list` is, over the source that `results` are polled from. -/
structure SamePlace (results : List SourcePoll) (list : OpenAiSseDecoder)
    (decoder : SourceDecoder) : Prop where
  source : list.source = results.drop decoder.polled
  buffer : list.buffer = decoder.buffer
  terminal : list.terminal = decoder.terminal

theorem listed_of_drop {results rest : List SourcePoll} {k : Nat} {poll : SourcePoll}
    (h : poll :: rest = results.drop k) :
    listed results k = poll ∧ rest = results.drop (k + 1) := by
  have hget : results[k]? = some poll := by
    rw [← List.head?_drop, ← h]
    rfl
  constructor
  · rw [listed, List.getD_eq_getElem?_getD, hget, Option.getD_some]
  · rw [← List.tail_drop, ← h, List.tail_cons]

/-- The passes of one poll, from one decoder over `results` to another. -/
def PollRun (codec : ChunkCodec Chunk) (results : List SourcePoll) (decoder : SourceDecoder)
    (polled : Poll (Option (InferenceStreamEvent Chunk)) × OpenAiSseDecoder) : Prop :=
  ∃ passes decoder', (∀ result ∈ passes, result = none) ∧
    (decoding codec (listed results)).Steps decoder (passes ++ [some polled.1]) decoder' ∧
    SamePlace results polled.2 decoder'

section PollRun

variable {codec : ChunkCodec Chunk} {clock : Option Nat} {results : List SourcePoll}
  {decoder decoder' : SourceDecoder}
  {polled : Poll (Option (InferenceStreamEvent Chunk)) × OpenAiSseDecoder}

/-- The pass that returns. -/
theorem PollRun.returns
    (hpass : decoder.pass codec (listed results) clock = (some polled.1, decoder'))
    (hplace : SamePlace results polled.2 decoder') : PollRun codec results decoder polled := by
  refine ⟨[], decoder', ?_, .tail (.refl _) ⟨clock, hpass⟩, hplace⟩
  intro result hresult
  cases hresult

/-- A pass that fails. -/
theorem PollRun.fails {list : OpenAiSseDecoder} {category : ErrorCategory}
    (hpass : decoder.pass codec (listed results) clock = decoder'.fail clock category)
    (hplace : list.source = results.drop decoder'.polled) :
    PollRun codec results decoder (list.fail clock category) :=
  .returns hpass ⟨hplace, rfl, rfl⟩

/-- A pass after which the loop goes on. -/
theorem PollRun.goes_on (hpass : decoder.pass codec (listed results) clock = (none, decoder'))
    (hrest : PollRun codec results decoder' polled) : PollRun codec results decoder polled := by
  obtain ⟨passes, last, hpasses, hsteps, hplace⟩ := hrest
  refine ⟨none :: passes, last, ?_, Transition.Steps.head ⟨clock, hpass⟩ hsteps, hplace⟩
  intro result hresult
  rcases List.mem_cons.mp hresult with rfl | hresult
  · rfl
  · exact hpasses result hresult

end PollRun

theorem pollRun_at (codec : ChunkCodec Chunk) (clock : Option Nat) (results : List SourcePoll)
    (list : OpenAiSseDecoder) :
    ∀ polled, list.source = results.drop polled →
      PollRun codec results ⟨polled, list.buffer, list.terminal⟩ (list.pollNext codec clock) := by
  fun_induction OpenAiSseDecoder.pollNext codec clock list with
  | case1 list hterminal =>
    intro polled hplace
    have hpass : SourceDecoder.pass codec (listed results) clock
        ⟨polled, list.buffer, list.terminal⟩ =
        (some (.ready none), ⟨polled, list.buffer, list.terminal⟩) :=
      SourceDecoder.pass_closed hterminal
    exact .returns hpass ⟨hplace, rfl, rfl⟩
  | case2 list hterminal frameEnd consumed hframe frame list' hdecode ih =>
    intro polled hplace
    have hpass : SourceDecoder.pass codec (listed results) clock
        ⟨polled, list.buffer, list.terminal⟩ =
        (none, ⟨polled, list.buffer.drop consumed, list.terminal⟩) := by
      rw [SourceDecoder.pass_frame hterminal hframe, hdecode]
    exact .goes_on hpass (ih polled hplace)
  | case3 list hterminal frameEnd consumed hframe frame list' chunk hdecode =>
    intro polled hplace
    have hpass : SourceDecoder.pass codec (listed results) clock
        ⟨polled, list.buffer, list.terminal⟩ =
        (some (.ready (some (.frame chunk))),
          ⟨polled, list.buffer.drop consumed, list.terminal⟩) := by
      rw [SourceDecoder.pass_frame hterminal hframe, hdecode]
    exact .returns hpass ⟨hplace, rfl, rfl⟩
  | case4 list hterminal frameEnd consumed hframe frame list' event hevent hdecode =>
    intro polled hplace
    have hpass : SourceDecoder.pass codec (listed results) clock
        ⟨polled, list.buffer, list.terminal⟩ =
        (some (.ready (some event)), ⟨polled, [], true⟩) := by
      rw [SourceDecoder.pass_frame hterminal hframe, hdecode]
      cases event with
      | frame chunk => exact absurd rfl (hevent chunk)
      | completed => rfl
      | failed failure => rfl
    exact .returns hpass ⟨hplace, rfl, rfl⟩
  | case5 list hterminal frameEnd consumed hframe frame list' category hdecode =>
    intro polled hplace
    have hpass : SourceDecoder.pass codec (listed results) clock
        ⟨polled, list.buffer, list.terminal⟩ =
        SourceDecoder.fail ⟨polled, list.buffer, list.terminal⟩ clock category := by
      rw [SourceDecoder.pass_frame hterminal hframe, hdecode]
    exact .fails hpass hplace
  | case6 list hterminal hframe hlength =>
    intro polled hplace
    exact .fails (SourceDecoder.pass_full hterminal hframe hlength) hplace
  | case7 list hterminal hframe hlength hsource =>
    intro polled hplace
    rw [hsource] at hplace
    -- past the end of the list nothing is ready
    have hend : results.length ≤ polled := List.drop_eq_nil_iff.mp hplace.symm
    have hlisted : listed results polled = .pending := by
      rw [listed, List.getD_eq_getElem?_getD, List.getElem?_eq_none hend]
      rfl
    have hpass : SourceDecoder.pass codec (listed results) clock
        ⟨polled, list.buffer, list.terminal⟩ =
        (some .pending, ⟨polled + 1, list.buffer, list.terminal⟩) := by
      rw [SourceDecoder.pass_poll hterminal hframe hlength, hlisted]
    have hrest : results.drop (polled + 1) = [] :=
      List.drop_eq_nil_iff.mpr (Nat.le_succ_of_le hend)
    exact .returns hpass ⟨hsource.trans hrest.symm, rfl, rfl⟩
  | case8 list hterminal hframe hlength source hsource =>
    intro polled hplace
    obtain ⟨hlisted, hrest⟩ := listed_of_drop (hsource.symm.trans hplace)
    have hpass : SourceDecoder.pass codec (listed results) clock
        ⟨polled, list.buffer, list.terminal⟩ =
        (some .pending, ⟨polled + 1, list.buffer, list.terminal⟩) := by
      rw [SourceDecoder.pass_poll hterminal hframe hlength, hlisted]
    exact .returns hpass ⟨hrest, rfl, rfl⟩
  | case9 list hterminal hframe hlength chunk source hsource hlong =>
    intro polled hplace
    obtain ⟨hlisted, hrest⟩ := listed_of_drop (hsource.symm.trans hplace)
    have hpass : SourceDecoder.pass codec (listed results) clock
        ⟨polled, list.buffer, list.terminal⟩ =
        SourceDecoder.fail ⟨polled + 1, list.buffer, list.terminal⟩ clock
          .providerUnavailable := by
      rw [SourceDecoder.pass_poll hterminal hframe hlength, hlisted]
      exact if_pos hlong
    exact .fails hpass hrest
  | case10 list hterminal hframe hlength chunk source hsource hfits ih =>
    intro polled hplace
    obtain ⟨hlisted, hrest⟩ := listed_of_drop (hsource.symm.trans hplace)
    have hpass : SourceDecoder.pass codec (listed results) clock
        ⟨polled, list.buffer, list.terminal⟩ =
        (none, ⟨polled + 1, list.buffer ++ chunk, list.terminal⟩) := by
      rw [SourceDecoder.pass_poll hterminal hframe hlength, hlisted]
      exact if_neg hfits
    exact .goes_on hpass (ih (polled + 1) hrest)
  | case11 list hterminal hframe hlength item source hother hsource =>
    intro polled hplace
    obtain ⟨hlisted, hrest⟩ := listed_of_drop (hsource.symm.trans hplace)
    have hpass : SourceDecoder.pass codec (listed results) clock
        ⟨polled, list.buffer, list.terminal⟩ =
        SourceDecoder.fail ⟨polled + 1, list.buffer, list.terminal⟩ clock
          .providerUnavailable := by
      rw [SourceDecoder.pass_poll hterminal hframe hlength, hlisted]
      rcases item with _ | (_ | chunk)
      · rfl
      · rfl
      · exact absurd rfl (hother chunk)
    exact .fails hpass hrest

/-- A poll of the decoder over a list is the passes up to the next result. -/
theorem pollRun_pollNext (codec : ChunkCodec Chunk) (clock : Option Nat)
    (results : List SourcePoll) (list : OpenAiSseDecoder) :
    ∀ decoder, SamePlace results list decoder →
      PollRun codec results decoder (list.pollNext codec clock) := by
  rintro ⟨polled, buffer, terminal⟩ ⟨hplace, rfl, rfl⟩
  exact pollRun_at codec clock results list polled hplace

end Upstream

end SmartGateway
