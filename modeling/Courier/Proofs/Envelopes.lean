import Courier.Proofs.ReadInstants
import Courier.Proofs.WrittenValues

/-!
Envelopes are read back: a message that has been delivered once at least is the message that its written
form holds, field by field. Only the instant at which it was sent may be told otherwise, if that lies in a stray leap
second.
-/
namespace Courier.Json

/-! ### Fields -/

/-- The digits of a number that fits 64 bits amount to that number, whatever digits follow. -/
private theorem gather_digitsBefore (later : List Digit) {n fuel : Nat} (fits : n < 0x10000000000000000) (enough : n < fuel) :
    gather 0 (digitsBefore later n fuel) = gather n later := by
  induction fuel generalizing later n with
  | zero => omega
  | succ fuel ih =>
    have last : (lastDigit n).val = n % 10 := rfl
    by_cases single : n < 10
    · have value : 0 * 10 + (lastDigit n).val = n := by omega
      simp only [digitsBefore, single, if_true, gather, value, fits]
    · have value : n / 10 * 10 + (lastDigit n).val = n := by omega
      simp only [digitsBefore, single, if_false]
      rw [ih _ (by omega) (by omega)]
      simp only [gather, value, fits, if_true]

theorem value?_ofNat {n : Nat} (fits : n < 0x10000000000000000) : (Numeral.ofNat n).value? = some (.unsigned n) := by
  have digits : gather 0 (digitsOf n) = (n, 0) := gather_digitsBefore [] fits (Nat.lt_succ_self n)
  simp only [Numeral.value?, Numeral.ofNat, digits, Bool.not_false, if_true]

private theorem natural_ofNat {limit n : Nat} (wanted : String) (below : n < limit) (small : limit ≤ 0x10000000000000000) :
    natural limit wanted (.ofNat n) = .ok n := by
  simp only [natural, Value.ofNat, value?_ofNat (Nat.lt_of_lt_of_le below small), below, if_true]

theorem byte_ofNat (b : UInt8) : byte (.ofNat b.toNat) = .ok b := by
  simp [byte, natural_ofNat "u8" b.toNat_lt (by decide), bind, Except.bind, pure, Except.pure, Nat.toUInt8]

theorem word_ofNat (w : UInt32) : word (.ofNat w.toNat) = .ok w := by
  simp [word, natural_ofNat "u32" w.toNat_lt (by decide), bind, Except.bind, pure, Except.pure, Nat.toUInt32]

theorem longWord_ofNat (w : UInt64) : longWord (.ofNat w.toNat) = .ok w := by
  simp [longWord, natural_ofNat "u64" w.toNat_lt (by decide), bind, Except.bind, pure, Except.pure, Nat.toUInt64]

theorem text_ofString (s : String) : text (.ofString s) = .ok s := by
  simp only [text, textAs, Value.ofString, Spelling.toString?_ofString]

theorem keyText_ofString (s : String) : keyText (.ofString s) = .ok s := by
  simp only [keyText, Spelling.toString?_ofString]

theorem instant_ofString (t : Instant) : instant (.ofString t.text) = .ok t.told := by
  simp [instant, textAs, Value.ofString, Spelling.toString?_ofString, Instant.parse_text, bind, Except.bind, pure,
    Except.pure]

theorem bytes_ofItems (body : List UInt8) : bytes (.ofItems (body.map (fun b => .ofNat b.toNat))) = .ok body := by
  show itemsOf byte (.ofList (body.map (fun b => .ofNat b.toNat))) = .ok body
  induction body with
  | nil => rfl
  | cons b body ih =>
    show (do
      let a ← byte (.ofNat b.toNat)
      return a :: (← itemsOf byte (.ofList (body.map (fun b : UInt8 => .ofNat b.toNat))))) = _
    rw [byte_ofNat, ih]
    rfl

/-- A member whose field has no value yet. -/
theorem readMembers_more {δ α β : Type} {shape : Shape δ α} {draft : δ} {key : String} {v : Value} {f : Field δ}
    {read : Reader β} {set : β → δ → δ} {a : β} (get : δ → Option β) (rest : Members) (ok : read v = .ok a)
    (found : shape.fields.find? (fun f => f.name == key) = some f) (isSet : f.isSet draft = (get draft).isSome)
    (reads : f.read v draft = (field key read get set).read v draft) (unset : get draft = none) :
    shape.readMembers draft (.more (.ofString key) v rest) = shape.readMembers (set a draft) rest := by
  have free : f.isSet draft = false := by rw [isSet, unset]; rfl
  have next : f.read v draft = .ok (set a draft) := by
    simp only [reads, field, ok, bind, Except.bind, pure, Except.pure]
  simp [Shape.readMembers, keyText_ofString, found, free, next, bind, Except.bind]

end Courier.Json

namespace Courier

open Json (Value Members need readMembers_more)

theorem Topic.read_toValue (t : Topic) : Topic.shape.read t.toValue = .ok t := by
  show (do Topic.shape.make (← Topic.shape.readMembers Topic.shape.empty
    (.more (.ofString "service_id") (.ofString t.service) (.more (.ofString "code") (.ofString t.code) .close)))) = _
  rw [readMembers_more Draft.service _ (Json.text_ofString t.service) rfl rfl rfl rfl,
    readMembers_more Draft.code _ (Json.text_ofString t.code) rfl rfl rfl rfl]
  rfl

namespace Dispatch

private theorem readKind_ofString {name : String} {kind : Kind} (known : Json.variantNamed kinds name = .ok kind) :
    readKind (.ofString name) = .ok kind := by
  simp only [readKind, Json.Value.ofString, Json.keyText_ofString, bind, Except.bind, known]

/-- The kind is found in front of what else there is. -/
private theorem gather_kind (depth : Nat) (name : String) {kind : Kind} (rest : Members)
    (known : Json.variantNamed kinds name = .ok kind) :
    gather depth none [] (.more (.ofString "kind") (.ofString name) rest) = gather depth (some kind) [] rest := by
  simp [gather, Json.keyText_ofString, readKind_ofString known, bind, Except.bind]

private theorem read_timely {depth : Nat} {members others : Members}
    (gathered : gather (depth - 1) none [] members = .ok (.timely, others)) :
    read depth (.record members) = .ok .timely := by
  simp only [read, gathered, bind, Except.bind, pure, Except.pure]

private theorem read_delayed {depth : Nat} {members others : Members}
    (gathered : gather (depth - 1) none [] members = .ok (.delayed, others)) :
    read depth (.record members) = (do delayShape.make (← delayShape.readMembers delayShape.empty others)) := by
  simp only [read, gathered, bind, Except.bind]

theorem read_toValue (depth : Nat) (d : Dispatch) : read depth d.toValue = .ok d := by
  cases d with
  | timely => exact read_timely (gather_kind (depth - 1) "timely" .close rfl)
  | delayed seconds =>
    have gathered := gather_kind (depth - 1) "delayed"
      (.more (.ofString "delay_seconds") (.ofNat seconds.toNat) .close) rfl
    have rest : gather (depth - 1) (some .delayed) [] (.more (.ofString "delay_seconds") (.ofNat seconds.toNat) .close) =
        .ok (.delayed, .more (.ofString "delay_seconds") (.ofNat seconds.toNat) .close) := by
      have keepable : (Value.ofNat seconds.toNat).isKeepable (depth - 1) = true := by
        simp [Value.ofNat, Value.isKeepable, Json.value?_ofNat seconds.toNat_lt]
      simp [gather, Json.keyText_ofString, keepable, bind, Except.bind, pure, Except.pure, need, Members.behind]
    refine (read_delayed (gathered.trans rest)).trans ?_
    have empty : delayShape.empty = ⟨none⟩ := rfl
    rw [empty, readMembers_more Draft.seconds _ (Json.longWord_ofNat seconds) rfl rfl rfl rfl]
    rfl

end Dispatch

namespace Message

/-- The message that an envelope tells: it was sent when the text of its instant says. -/
def told (m : Message) : Message := { m with createdAt := m.createdAt.told }

theorem told_of_regular {m : Message} (regular : ¬ m.createdAt.IsStray) : m.told = m := by
  rw [told, Instant.told_of_regular regular]

theorem told_eq_iff (m : Message) : m.told = m ↔ ¬ m.createdAt.IsStray := by
  refine ⟨fun same => ?_, told_of_regular⟩
  exact (Instant.told_eq_iff _).mp (congrArg createdAt same)

/-- The members that every message has, in front of others. -/
private def fixedMembers (m : Message) (rest : Members) : Members :=
  .more (.ofString "request_id") (.ofString m.requestId)
    (.more (.ofString "topic") m.topic.toValue
    (.more (.ofString "body") (.ofItems (m.body.map (fun b => .ofNat b.toNat)))
    (.more (.ofString "deliver_count") (.ofNat m.deliverCount.toNat)
    (.more (.ofString "polling_count") (.ofNat m.pollingCount.toNat)
    (.more (.ofString "fail_retry_count") (.ofNat m.failRetryCount.toNat)
    (.more (.ofString "is_retry") (.bool m.isRetry)
    (.more (.ofString "dispatch") m.dispatch.toValue
    (.more (.ofString "created_at") (.ofString m.createdAt.text) rest))))))))

/-- The member that a message has if it is for one handler only. -/
private def targetMember : Option String → Members
  | none => .close
  | some handler => .more (.ofString "target_handler") (.ofString handler) .close

private theorem toValue_eq (m : Message) : m.toValue = .record (m.fixedMembers (targetMember m.targetHandler)) := by
  obtain ⟨_, _, _, _, _, _, _, _, _, target⟩ := m
  cases target <;> rfl

private theorem readMembers_fixedMembers (m : Message) (rest : Members) :
    shape.readMembers shape.empty (m.fixedMembers rest) =
      shape.readMembers ⟨m.requestId, m.topic, m.body, m.deliverCount, m.pollingCount, m.failRetryCount, m.isRetry,
        m.dispatch, m.createdAt.told, none⟩ rest := by
  unfold fixedMembers
  rw [readMembers_more Draft.requestId _ (Json.text_ofString m.requestId) rfl rfl rfl rfl,
    readMembers_more Draft.topic _ m.topic.read_toValue rfl rfl rfl rfl,
    readMembers_more Draft.body _ (Json.bytes_ofItems m.body) rfl rfl rfl rfl,
    readMembers_more Draft.deliverCount _ (Json.word_ofNat m.deliverCount) rfl rfl rfl rfl,
    readMembers_more Draft.pollingCount _ (Json.word_ofNat m.pollingCount) rfl rfl rfl rfl,
    readMembers_more Draft.failRetryCount _ (Json.word_ofNat m.failRetryCount) rfl rfl rfl rfl,
    readMembers_more Draft.isRetry _ (show Json.bool (.bool m.isRetry) = .ok m.isRetry from rfl) rfl rfl rfl rfl,
    readMembers_more Draft.dispatch _ (Dispatch.read_toValue (Json.depthLimit - 1) m.dispatch) rfl rfl rfl rfl,
    readMembers_more Draft.createdAt _ (Json.instant_ofString m.createdAt) rfl rfl rfl rfl]
  rfl

private theorem optional_ofString (s : String) : Json.optional Json.text (.ofString s) = .ok (some s) := by
  show (do return some (← Json.text (.ofString s))) = _
  rw [Json.text_ofString]
  rfl

theorem read_toValue (m : Message) : shape.read m.toValue = .ok m.told := by
  rw [toValue_eq]
  show (do shape.make (← shape.readMembers shape.empty (m.fixedMembers (targetMember m.targetHandler)))) = _
  rw [readMembers_fixedMembers]
  obtain ⟨_, _, _, _, _, _, _, _, _, target⟩ := m
  cases target with
  | none => rfl
  | some handler =>
    show (do shape.make (← shape.readMembers _ (.more (.ofString "target_handler") (.ofString handler) .close))) = _
    rw [readMembers_more (f := Json.freeField "target_handler" _ Draft.targetHandler _) Draft.targetHandler _
      (optional_ofString handler) rfl rfl rfl rfl]
    rfl

/-! ### Written messages -/

private theorem reads_topic (t : Topic) : Json.Reads t.toValue :=
  Json.reads_ofMembers (by simp [Json.reads_ofString])

private theorem reads_dispatch (d : Dispatch) : Json.Reads d.toValue := by
  cases d with
  | timely => exact Json.reads_ofMembers (by simp [Json.reads_ofString])
  | delayed seconds => exact Json.reads_ofMembers (by simp [Json.reads_ofString, Json.reads_ofNat])

private theorem reads_toValue (m : Message) : Json.Reads m.toValue := by
  refine Json.reads_ofMembers (fun member inside => ?_)
  simp only [members, List.mem_append, List.mem_cons, List.not_mem_nil, or_false] at inside
  rcases inside with (rfl | rfl | rfl | rfl | rfl | rfl | rfl | rfl | rfl) | target
  · exact Json.reads_ofString _
  · exact reads_topic _
  · exact Json.reads_ofItems (by simp [Json.reads_ofNat])
  · exact Json.reads_ofNat _
  · exact Json.reads_ofNat _
  · exact Json.reads_ofNat _
  · exact Json.reads_bool _
  · exact reads_dispatch _
  · exact Json.reads_ofString _
  · cases handler : m.targetHandler with
    | none => simp [handler] at target
    | some name =>
      obtain rfl : member = ("target_handler", .ofString name) := by simpa [handler] using target
      exact Json.reads_ofString _

/-- A message is the one that its written form tells, whatever its counters. -/
theorem read_encode (m : Message) : read m.encode = .ok m.told := by
  have document : Json.Document.ofBytes m.encode = ⟨m.toValue, true⟩ := (reads_toValue m).document
  show (do let a ← shape.read (Json.Document.ofBytes m.encode).value; if _ then return a else throw _) = _
  rw [document]
  simp [read_toValue, bind, Except.bind, pure, Except.pure]

theorem decode_encode {m : Message} (delivered : m.deliverCount ≠ 0) : decode m.encode = .ok m.told := by
  have count : m.told.deliverCount ≠ 0 := delivered
  simp only [decode, read_encode, count, if_false]

theorem decode_written {m : Message} (delivered : m.deliverCount ≠ 0) (regular : ¬ m.createdAt.IsStray) :
    decode m.encode = .ok m := by
  rw [decode_encode delivered, told_of_regular regular]

/-- The envelope of a message tells the same as that of the message that it tells. -/
theorem encode_told (m : Message) : m.told.encode = m.encode := by
  simp only [encode, toValue, members, told, Instant.text_told]

/-- What is read has been delivered once at least. -/
theorem deliverCount_of_decode {bytes : List UInt8} {m : Message} (reads : decode bytes = .ok m) :
    m.deliverCount ≠ 0 := by
  intro never
  unfold decode at reads
  split at reads
  · cases reads
  · rename_i found whole
    by_cases zero : found.deliverCount = 0
    · simp [zero] at reads
    · simp only [zero, if_false] at reads
      cases reads
      exact zero never

private theorem one_le_iff (count : UInt32) : 1 ≤ count ↔ count ≠ 0 := by
  rw [UInt32.le_iff_toNat_le, Ne, ← UInt32.toNat_inj]
  exact Nat.one_le_iff_ne_zero

/-- What is read was not sent in a stray leap second. -/
theorem regular_of_decode {bytes : List UInt8} {m : Message} (reads : decode bytes = .ok m) : ¬ m.createdAt.IsStray := by
  unfold decode at reads
  split at reads
  · cases reads
  · rename_i found whole
    split at reads
    · cases reads
    · cases reads
      exact regular_of_read whole

/-- A message that has been delivered once at least is the one that its envelope tells, which has everything of the
message and was sent at the same instant, unless that lies in a leap second that is not at the end of a minute; there it
is read as a part of the second that follows. So two such messages have one envelope just if they tell the same, and
are one message if neither was sent in such a leap second. Whatever bytes a message is read from, it was not, and it
is the message that its own envelope holds. -/
theorem envelopes_round_trip :
    (∀ m : Message, decode m.encode = .ok m ↔ 1 ≤ m.deliverCount ∧ ¬ m.createdAt.IsStray) ∧
      (∀ m : Message, 1 ≤ m.deliverCount → decode m.encode = .ok { m with createdAt := m.createdAt.told }) ∧
      (∀ m n : Message, 1 ≤ m.deliverCount → 1 ≤ n.deliverCount →
        (m.encode = n.encode ↔
          { m with createdAt := m.createdAt.told } = { n with createdAt := n.createdAt.told }) ∧
        (¬ m.createdAt.IsStray → ¬ n.createdAt.IsStray → m.encode = n.encode → m = n)) ∧
      ∀ bytes m, decode bytes = .ok m → 1 ≤ m.deliverCount ∧ ¬ m.createdAt.IsStray ∧ decode m.encode = .ok m := by
  have same_told {m n : Message} (first : 1 ≤ m.deliverCount) (second : 1 ≤ n.deliverCount)
      (same : m.encode = n.encode) : m.told = n.told := by
    have back : decode m.encode = .ok m.told := decode_encode ((one_le_iff _).mp first)
    rw [same, decode_encode ((one_le_iff _).mp second)] at back
    exact (Except.ok.inj back).symm
  refine ⟨fun m => ⟨fun back => ?_, fun ⟨delivered, regular⟩ => ?_⟩, fun m delivered => ?_, fun m n first second =>
    ⟨⟨same_told first second, fun same => ?_⟩, fun regular other same => ?_⟩, fun bytes m reads => ?_⟩
  · exact ⟨(one_le_iff _).mpr (deliverCount_of_decode back), regular_of_decode back⟩
  · exact decode_written ((one_le_iff _).mp delivered) regular
  · exact decode_encode ((one_le_iff _).mp delivered)
  · have same : m.told = n.told := same
    rw [← m.encode_told, same, n.encode_told]
  · have told := same_told first second same
    rw [told_of_regular regular, told_of_regular other] at told
    exact told
  · have delivered := deliverCount_of_decode reads
    have regular := regular_of_decode reads
    exact ⟨(one_le_iff _).mpr delivered, regular, decode_written delivered regular⟩

/-- A message that was sent in a leap second in the middle of a minute. -/
private def midMinute : Message :=
  .new "noon" ⟨"clock", "strikes"⟩ [] ⟨1000, 1500000000, by decide, by decide, by decide⟩

/-- The envelope of a message that was sent in a leap second in the middle of a minute holds another one: its instant is
read as half a second into the second that follows. -/
theorem envelope_moves_stray_second :
    1 ≤ midMinute.deliverCount ∧ midMinute.createdAt.text = "1970-01-01T00:16:41.500Z" ∧
      decode midMinute.encode =
        .ok { midMinute with createdAt := ⟨1001, 500000000, by decide, by decide, by decide⟩ } ∧
      decode midMinute.encode ≠ .ok midMinute := by
  have moved : midMinute.createdAt.told = ⟨1001, 500000000, by decide, by decide, by decide⟩ := by decide
  have back : decode midMinute.encode = .ok midMinute.told := decode_encode (by decide)
  refine ⟨by decide, by decide +kernel, ?_, fun same => ?_⟩
  · rw [back, told, moved]
  · rw [same] at back
    have regular := (told_eq_iff midMinute).mp (Except.ok.inj back).symm
    exact regular ⟨by decide, by decide⟩

end Message

end Courier
