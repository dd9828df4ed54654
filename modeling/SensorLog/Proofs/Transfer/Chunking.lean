import SensorLog.Proofs.Transfer.Invariant
import SensorLog.Proofs.Transfer.Mirror
import SensorLog.Schema.Builtin

/-!
# However the bytes are cut into packets

A transfer that never retries makes of its packets what `onePass` makes of the bytes in them, whatever
the borders of the packets are (`feeds_eq_onePass`). The invariant between two packets is `Mirrors`:
the bytes that are still unread are what the pass over all bytes so far has left over.
-/

namespace SensorLog

/-- The answer of a transfer that stopped for a reason; none if it waits for packets. -/
def OnePass.answer? (entries : Nat) (pass : OnePass) : Option (Except TransferError Progress) :=
  match pass.halt with
  | .starved _ => none
  | halt => some (halt.answer (entries + pass.rows.length))

namespace Transfer

variable {σ : Type} [RowSink σ] {t : Transfer σ}

/-- The pass over the unread bytes of a transfer and more bytes behind them. -/
def passOver (t : Transfer σ) (more : Bytes) : OnePass :=
  t.setup.onePass t.lastColumns? t.entries (t.reader.unread ++ more)

omit [RowSink σ] in
theorem Ready.sound (ready : t.Ready) : Sound t.retries.plan t :=
  .of_no_failures rfl ready.reader ready.failures

/-- A packet is answered with the pass over the bytes so far, unless there is no room for it. -/
theorem feed_answers (ready : t.Ready) (faithful : RowSink.NeverFails t.sink) (packet : Bytes)
    (single : t.NoRetry (t.passOver packet)) :
    Answers t (t.passOver packet) (t.feed packet) ∨
      (NoRoom (t.feed packet).result ∧ t.settings.capacity = t.reader.queue.packets.length) := by
  rcases ready.sound.feed_cases ready.phase packet with
    ⟨queue, -, advances, sound, stream, capacity⟩ | ⟨-, full, exact⟩
  · have ready' : ({ t with reader := { t.reader with queue } } : Transfer σ).Ready :=
      ⟨ready.phase, ready.failures, sound.reader, capacity.trans ready.capacity⟩
    have pass : ({ t with reader := { t.reader with queue } } : Transfer σ).pass = t.passOver packet := by
      simp only [Transfer.pass, passOver, FrameReader.unread, stream, List.append_assoc]
      rfl
    obtain ⟨result, mirrors⟩ := advance_answers _ ready' faithful (pass.symm ▸ single)
    rw [pass] at result mirrors
    rw [advances]
    exact .inl ⟨result, mirrors.sink, mirrors.entries, mirrors.columns, mirrors.phase, mirrors.setup,
      mirrors.plan, mirrors.left⟩
  · rw [full]
    exact .inr ⟨⟨_, rfl⟩, ready.capacity ▸ exact⟩

theorem feed_answers_of_room (ready : t.Ready) (faithful : RowSink.NeverFails t.sink) {packet : Bytes}
    (single : t.NoRetry (t.passOver packet)) (room : ¬ NoRoom (t.feed packet).result) :
    Answers t (t.passOver packet) (t.feed packet) := by
  rcases feed_answers ready faithful packet single with answers | ⟨full, -⟩
  · exact answers
  · exact absurd full room

/-! ## Packet after packet -/

omit [RowSink σ] in
theorem passOver_append (t : Transfer σ) (first more : Bytes) :
    t.passOver (first ++ more) = t.setup.extend t.lastColumns? t.entries more (t.passOver first) := by
  rw [passOver, ← List.append_assoc, Setup.onePass_append]
  rfl

/-- What is unread after a pass has run out of bytes is where it goes on. -/
theorem Mirrors.passOver_append {next : Transfer σ} {first left : Bytes}
    (mirrors : Mirrors t (t.passOver first) next) (starved : (t.passOver first).halt = .starved left)
    (more : Bytes) :
    t.passOver (first ++ more) = (next.passOver more).behind (t.passOver first).rows := by
  obtain ⟨-, unread⟩ := mirrors.left left starved
  rw [Transfer.passOver_append, Setup.extend, starved]
  dsimp only
  rw [← mirrors.columns, ← mirrors.entries, ← mirrors.setup, ← unread]
  rfl

omit [RowSink σ] in
/-- A pass that has halted does not see what comes later. -/
theorem passOver_append_of_halted {first : Bytes} (halted : ∀ left, (t.passOver first).halt ≠ .starved left)
    (more : Bytes) : t.passOver (first ++ more) = t.passOver first := by
  rw [passOver_append, Setup.extend]
  split
  · rename_i left starved
    exact absurd starved (halted left)
  · rfl

omit [RowSink σ] in
theorem NoRetry.of_append {first more : Bytes} (single : t.NoRetry (t.passOver (first ++ more))) :
    t.NoRetry (t.passOver first) := by
  apply single.imp id
  intro clean cause corrupt
  rw [passOver_append_of_halted] at clean
  · exact clean cause corrupt
  · intro left starved
    rw [corrupt] at starved
    cases starved

theorem answer?_feeds_cons (t : Transfer σ) (packet : Bytes) (rest : List Bytes) :
    (t.feeds (packet :: rest)).answer? = if isMore (t.feed packet).result then
      ((t.feed packet).transfer.feeds rest).answer? else some (t.feed packet).result := by
  simp only [feeds_cons, Run.answer?, List.find?_cons]
  cases isMore (t.feed packet).result <;> rfl

omit [RowSink σ] in
theorem answer?_behind {next : Transfer σ} {first pass : OnePass}
    (entries : next.entries = t.entries + first.rows.length) :
    (pass.behind first.rows).answer? t.entries = pass.answer? next.entries := by
  simp only [OnePass.answer?, OnePass.behind, List.length_append, entries, Nat.add_assoc]

/-- A pass that halted has its answer, a starved one has none. -/
theorem Answers.answer? {pass : OnePass} {reply : Reply σ} (answers : Answers t pass reply) :
    pass.answer? t.entries = if isMore reply.result then none else some reply.result := by
  rw [OnePass.answer?, answers.result]
  rcases pass with ⟨rows, _ | _ | _ | _ | _ | _ | _⟩ <;> rfl

theorem Answers.isMore_iff {pass : OnePass} {reply : Reply σ} (answers : Answers t pass reply) :
    isMore reply.result = true ↔ ∃ left, pass.halt = .starved left := by
  rw [answers.result]
  rcases pass with ⟨rows, _ | _ | _ | _ | _ | _ | _⟩ <;> simp [Halt.answer, isMore]

theorem Answers.ended {pass : OnePass} {reply : Reply σ} (answers : Answers t pass reply)
    (halted : ∀ left, pass.halt ≠ .starved left) : reply.transfer.phase ≠ .running := by
  rw [answers.mirrors.phase]
  rcases pass with ⟨rows, left | _ | _ | _ | _ | _ | _⟩
  · exact absurd rfl (halted left)
  all_goals exact nofun

/-- Packets are answered with the pass over all their bytes. -/
theorem feeds_mirrors (ready : t.Ready) (faithful : RowSink.NeverFails t.sink) (packet : Bytes)
    (rest : List Bytes) (room : ∀ result ∈ (t.feeds (packet :: rest)).results, ¬ NoRoom result)
    (single : t.NoRetry (t.passOver (packet ++ rest.flatten))) :
    Mirrors t (t.passOver (packet ++ rest.flatten)) (t.feeds (packet :: rest)).transfer ∧
      (t.feeds (packet :: rest)).answer? = (t.passOver (packet ++ rest.flatten)).answer? t.entries := by
  induction rest generalizing t packet with
  | nil =>
      rw [List.flatten_nil, List.append_nil] at single ⊢
      have answers := feed_answers_of_room ready faithful single (room _ List.mem_cons_self)
      rw [answer?_feeds_cons, answers.answer?]
      exact ⟨answers.mirrors, rfl⟩
  | cons next rest ih =>
      rw [feeds_cons] at room
      obtain ⟨here, later⟩ := List.forall_mem_cons.1 room
      have answers := feed_answers_of_room ready faithful single.of_append here
      rw [answer?_feeds_cons]
      by_cases more : isMore (t.feed packet).result = true
      · obtain ⟨left, starved⟩ := answers.isMore_iff.1 more
        obtain ⟨ready', -⟩ := answers.mirrors.left left starved
        have onward := answers.mirrors.passOver_append starved (next ++ rest.flatten)
        obtain ⟨mirrors, answer⟩ := ih ready' (answers.mirrors.neverFails faithful) next later
          (answers.mirrors.noRetry (onward ▸ single))
        rw [List.flatten_cons, onward, if_pos more, answer, answer?_behind answers.mirrors.entries]
        exact ⟨answers.mirrors.trans starved mirrors, rfl⟩
      · have halted : ∀ left, (t.passOver packet).halt ≠ .starved left := by
          intro left starved
          exact more (answers.isMore_iff.2 ⟨left, starved⟩)
        have halts := transfer_feeds_of_ended (answers.ended halted) (next :: rest)
        rw [passOver_append_of_halted halted, feeds_cons, halts, if_neg more, answers.answer?, if_neg more]
        exact ⟨answers.mirrors, rfl⟩

/-! ## Room for every packet -/

theorem Answers.room {pass : OnePass} {reply : Reply σ} (answers : Answers t pass reply) :
    ¬ NoRoom reply.result := by
  rintro ⟨capacity, full⟩
  rw [answers.result] at full
  rcases pass with ⟨rows, _ | _ | _ | _ | _ | _ | _⟩ <;> cases full

theorem room_of_ended (ended : t.phase ≠ .running) (packets : List Bytes) :
    ∀ result ∈ (t.feeds packets).results, ¬ NoRoom result := by
  induction packets with
  | nil => exact nofun
  | cons packet rest ih =>
      obtain ⟨same, answer⟩ := feed_of_ended ended packet
      rw [feeds_cons, same, List.forall_mem_cons]
      constructor
      · rintro ⟨capacity, full⟩
        rcases answer with complete | closed
        · rw [complete] at full
          cases full
        · rw [closed] at full
          cases full
      · exact ih

/-- Every packet finds room if the bytes that a pass leaves over are always fewer than the places,
    since each packet that waits holds one of them. -/
theorem room_of_space (ready : t.Ready) (faithful : RowSink.NeverFails t.sink) (packets : List Bytes)
    (single : t.NoRetry (t.passOver packets.flatten))
    (start : t.reader.queue.packets.length < t.settings.capacity)
    (space : ∀ before after left, before ++ after = packets.flatten →
      (t.passOver before).halt = .starved left → left.length < t.settings.capacity) :
    ∀ result ∈ (t.feeds packets).results, ¬ NoRoom result := by
  induction packets generalizing t with
  | nil => exact nofun
  | cons packet rest ih =>
      have answers := (feed_answers ready faithful packet single.of_append).resolve_right
        fun ⟨_, full⟩ => Nat.ne_of_gt start full
      rw [feeds_cons, List.forall_mem_cons]
      apply And.intro answers.room
      by_cases more : isMore (t.feed packet).result = true
      · obtain ⟨left, starved⟩ := answers.isMore_iff.1 more
        obtain ⟨ready', unread⟩ := answers.mirrors.left left starved
        have onward := answers.mirrors.passOver_append starved
        have settings := congrArg Setup.settings answers.mirrors.setup
        change (t.feed packet).transfer.settings = t.settings at settings
        apply ih ready' (answers.mirrors.neverFails faithful)
        · exact answers.mirrors.noRetry (onward rest.flatten ▸ single)
        · have waiting := ready'.reader.length_packets_le
          rw [unread] at waiting
          rw [settings]
          exact Nat.lt_of_le_of_lt waiting (space packet rest.flatten left rfl starved)
        · intro before after left' joined starved'
          rw [settings]
          apply space (packet ++ before) after left'
          · rw [List.append_assoc, joined]
            rfl
          · rw [onward before]
            exact starved'
      · have halted : ∀ left, (t.passOver packet).halt ≠ .starved left := by
          intro left starved
          exact more (answers.isMore_iff.2 ⟨left, starved⟩)
        exact room_of_ended (answers.ended halted) rest

/-- Packets that all hold bytes are answered with "more" up to the last one, if the pass over the
    bytes runs out of them at every earlier place. -/
theorem results_of_starved (ready : t.Ready) (faithful : RowSink.NeverFails t.sink) (packet : Bytes)
    (rest : List Bytes) (inhabited : ∀ p ∈ rest, p ≠ [])
    (room : ∀ result ∈ (t.feeds (packet :: rest)).results, ¬ NoRoom result)
    (single : t.NoRetry (t.passOver (packet ++ rest.flatten)))
    (starves : ∀ before after, before ++ after = packet ++ rest.flatten → after ≠ [] →
      ∃ left, (t.passOver before).halt = .starved left) :
    (t.feeds (packet :: rest)).results = List.replicate rest.length (.ok .more)
      ++ [(t.passOver (packet ++ rest.flatten)).halt.answer
            (t.entries + (t.passOver (packet ++ rest.flatten)).rows.length)] := by
  induction rest generalizing t packet with
  | nil =>
      rw [List.flatten_nil, List.append_nil] at single ⊢
      have answers := feed_answers_of_room ready faithful single (room _ List.mem_cons_self)
      rw [feeds_cons, answers.result]
      rfl
  | cons next rest ih =>
      rw [feeds_cons] at room
      obtain ⟨here, later⟩ := List.forall_mem_cons.1 room
      obtain ⟨some, inhabitedRest⟩ := List.forall_mem_cons.1 inhabited
      have answers := feed_answers_of_room ready faithful single.of_append here
      have nonempty : (next :: rest).flatten ≠ [] := by
        rw [List.flatten_cons]
        intro nothing
        obtain ⟨empty, -⟩ := List.append_eq_nil_iff.1 nothing
        exact some empty
      obtain ⟨left, starved⟩ := starves packet _ rfl nonempty
      obtain ⟨ready', -⟩ := answers.mirrors.left left starved
      have onward := answers.mirrors.passOver_append starved
      have whole := onward (next ++ rest.flatten)
      have results := ih ready' (answers.mirrors.neverFails faithful) next inhabitedRest later
        (answers.mirrors.noRetry (whole ▸ single)) ?_
      · have count : (t.feed packet).transfer.entries
              + ((t.feed packet).transfer.passOver (next ++ rest.flatten)).rows.length
            = t.entries + (t.passOver (packet ++ (next ++ rest.flatten))).rows.length := by
          rw [answers.mirrors.entries, whole, OnePass.behind, List.length_append]
          omega
        rw [feeds_cons, results, answers.result, starved, count, List.flatten_cons, whole]
        rfl
      · intro before after joined lacking
        obtain ⟨left', starved'⟩ := starves (packet ++ before) after
          (by rw [List.append_assoc, joined, List.flatten_cons]) lacking
        rw [onward before] at starved'
        exact ⟨left', starved'⟩

/-! ## A fresh transfer -/

/-- What can be seen of a run: the calls to its sink with their results, the number of entries, the
    phase, and the first answer that is not "more". -/
structure Observation where
  notes : List (SinkCall × Except IoError Unit)
  entries : Nat
  phase : Phase
  answer? : Option (Except TransferError Progress)

end Transfer

/-- What can be seen of a run. -/
def Run.observation {σ : Type} (run : Run (Noted σ)) : Transfer.Observation where
  notes := run.transfer.sink.notes
  entries := run.transfer.entries
  phase := run.transfer.phase
  answer? := run.answer?

/-- What a run shows that makes of its packets what a pass makes of their bytes. -/
def OnePass.observation (pass : OnePass) : Transfer.Observation where
  notes := pass.calls.map fun call => (call, .ok ())
  entries := pass.rows.length
  phase := pass.halt.phase
  answer? := pass.answer? 0

namespace Transfer

/-- A byte string cut into packets, one at least, each of which finds room. -/
structure Cutting {σ : Type} [RowSink σ] (t : Transfer σ) (input : Bytes) (packets : List Bytes) : Prop where
  some : packets ≠ []
  joined : packets.flatten = input
  room : ∀ result ∈ (t.feeds packets).results, ¬ NoRoom result

theorem Ready.fresh {σ : Type} (settings : Settings) (registry : Registry) (codec : RecordCodec) (sink : σ) :
    (ofCodec settings registry codec sink).Ready :=
  ⟨rfl, rfl, .new _ _, rfl⟩

/-- There is room for every cutting of a byte string that is shorter than the queue has places. -/
theorem Cutting.of_length_lt {σ : Type} [RowSink σ] {settings : Settings} {registry : Registry}
    {codec : RecordCodec} {sink : σ} (faithful : RowSink.NeverFails sink) {input : Bytes}
    (single : settings.plan.orders = [] ∨
      ∀ cause, (Setup.onePass { settings, registry, codec } none 0 input).halt ≠ .noRow (.corrupt cause))
    (short : input.length < settings.capacity) {packets : List Bytes} (some : packets ≠ [])
    (joined : packets.flatten = input) : (ofCodec settings registry codec sink).Cutting input packets where
  some := some
  joined := joined
  room := by
    subst joined
    apply room_of_space (.fresh ..) faithful packets single (Nat.zero_lt_of_lt short)
    intro before after left joined starved
    have before_le : left.length ≤ before.length := (Setup.suffix_of_starved starved).length_le
    have total := congrArg List.length joined
    rw [List.length_append] at total
    show left.length < settings.capacity
    omega

/-- A fresh transfer over a sink that never fails makes of the packets of a byte string what one pass
    makes of the bytes, as long as no payload is read twice. -/
theorem feeds_eq_onePass {σ : Type} [RowSink σ] (settings : Settings) (registry : Registry)
    (codec : RecordCodec) (sink : σ) (faithful : RowSink.NeverFails sink) (input : Bytes)
    (single : settings.plan.orders = [] ∨
      ∀ cause, (Setup.onePass { settings, registry, codec } none 0 input).halt ≠ .noRow (.corrupt cause)) :
    let t := ofCodec settings registry codec ({ sink } : Noted σ)
    (∀ packets, t.Cutting input packets → (t.feeds packets).observation
        = (Setup.onePass { settings, registry, codec } none 0 input).observation) ∧
      ∀ packets packets', t.Cutting input packets → t.Cutting input packets' →
        (t.feeds packets).observation = (t.feeds packets').observation := by
  intro t
  have once : ∀ packets, t.Cutting input packets → (t.feeds packets).observation
      = (Setup.onePass { settings, registry, codec } none 0 input).observation := by
    rintro packets ⟨some, joined, room⟩
    cases packets with
    | nil => exact absurd rfl some
    | cons packet rest =>
        have noted : RowSink.NeverFails t.sink := Noted.neverFails (s := { sink }) faithful
        subst joined
        obtain ⟨mirrors, answer⟩ := feeds_mirrors (.fresh ..) noted packet rest room single
        have notes := congrArg Noted.notes mirrors.sink
        have entries := mirrors.entries
        rw [Noted.notes_after faithful] at notes
        rw [show t.entries = 0 from rfl, Nat.zero_add] at entries
        rw [Run.observation, notes, entries, mirrors.phase, answer]
        rfl
  constructor
  · exact once
  · intro packets packets' one other
    rw [once packets one, once packets' other]

/-- An entry and the end of the log, in four packets or in single bytes. -/
theorem feeds_eq_onePass_two_cuttings :
    let t := ofCodec { raw := true } Registry.builtin Registry.builtin.codec ({ sink := {} } : Noted RowList)
    let coarse : List Bytes := [[4, 8], [1, 16, 100, 2], [], [8, 2]]
    let fine : List Bytes := [[4], [8], [1], [16], [100], [2], [8], [2]]
    t.Cutting [4, 8, 1, 16, 100, 2, 8, 2] coarse ∧ t.Cutting [4, 8, 1, 16, 100, 2, 8, 2] fine ∧
      (t.feeds coarse).observation = (t.feeds fine).observation ∧
      (t.feeds coarse).observation.entries = 1 ∧
      (t.feeds coarse).observation.answer? = some (.ok (.complete 1)) := by
  intro t coarse fine
  have pass : Setup.onePass
      { settings := { raw := true }, registry := .builtin, codec := Registry.builtin.codec } none 0
      [4, 8, 1, 16, 100, 2, 8, 2]
        = ⟨[⟨["TS", "p"], [.int 1, .int 100], true⟩], .noRow .endOfLog⟩ := by cbv
  have faithful : RowSink.NeverFails ({ rows := #[] } : RowList) := RowSink.neverFails_rowList _
  have single : ∀ cause, (Setup.onePass
      { settings := { raw := true }, registry := .builtin, codec := Registry.builtin.codec } none 0
      [4, 8, 1, 16, 100, 2, 8, 2]).halt ≠ .noRow (.corrupt cause) := by
    intro cause corrupt
    rw [pass] at corrupt
    cases corrupt
  obtain ⟨once, alike⟩ := feeds_eq_onePass { raw := true } .builtin Registry.builtin.codec _ faithful
    [4, 8, 1, 16, 100, 2, 8, 2] (.inr single)
  have room : ([4, 8, 1, 16, 100, 2, 8, 2] : Bytes).length < PacketQueue.defaultCapacity := by decide
  have cut (packets : List Bytes) (some : packets ≠ []) (joined : packets.flatten = [4, 8, 1, 16, 100, 2, 8, 2]) :
      t.Cutting [4, 8, 1, 16, 100, 2, 8, 2] packets :=
    .of_length_lt (Noted.neverFails (s := t.sink) faithful) (.inr single) room some joined
  have coarse_cut : t.Cutting _ coarse := cut coarse (by decide) rfl
  have fine_cut : t.Cutting _ fine := cut fine (by decide) rfl
  refine ⟨coarse_cut, fine_cut, alike _ _ coarse_cut fine_cut, ?_, ?_⟩
  · rw [once _ coarse_cut, pass]
    rfl
  · rw [once _ coarse_cut, pass]
    rfl

end Transfer

end SensorLog
