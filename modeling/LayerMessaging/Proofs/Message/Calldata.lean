import LayerMessaging.Message.Basic
import LayerMessaging.Proofs.Abi.Reader

namespace LayerMessaging

namespace Abi

theorem heads_map_word_append (offset : Nat) (front : List Uint256) (arguments : List Argument) :
    heads offset (front.map .word ++ arguments) =
      front.flatMap Uint256.bytes ++ heads offset arguments := by
  induction front with
  | nil => rfl
  | cons word front ih =>
    rw [List.map_cons, List.cons_append, heads, ih, List.flatMap_cons, List.append_assoc]

theorem flatMap_tail_map_word (front : List Uint256) :
    (front.map Argument.word).flatMap Argument.tail = [] := by
  induction front with
  | nil => rfl
  | cons word front ih => rw [List.map_cons, List.flatMap_cons, ih, Argument.tail, List.nil_append]

theorem encodeArguments_list_last (front values : List Uint256) :
    encodeArguments (front.map .word ++ [.words values]) =
      front.flatMap Uint256.bytes ++ (wordBytes (32 * (front.length + 1)) ++
        (wordBytes values.length ++ values.flatMap Uint256.bytes)) := by
  rw [encodeArguments, heads_map_word_append, List.flatMap_append, flatMap_tail_map_word,
    List.length_append, List.length_map]
  simp [heads, Argument.tail]

theorem length_encodeArguments_list_last (front values : List Uint256) :
    (encodeArguments (front.map .word ++ [.words values])).length =
      32 * (front.length + 2 + values.length) := by
  rw [encodeArguments_list_last]
  simp only [List.length_append, length_flatMap_bytes, length_wordBytes]
  omega

theorem fits_list_last (front : List Uint256) {offset : Nat} {values : List Uint256}
    (hoffset : offset < Bytes.limit 32) (hlength : values.length < Bytes.limit 32) :
    Fits offset (front.map .word ++ [.words values]) := by
  induction front with
  | nil => exact ⟨hoffset, hlength, trivial⟩
  | cons word front ih => exact ih

theorem eq_of_flatMap_bytes_append_eq {words words' : List Uint256} {rest rest' : Bytes}
    (hlength : words.length = words'.length)
    (h : words.flatMap Uint256.bytes ++ rest = words'.flatMap Uint256.bytes ++ rest') :
    words = words' ∧ rest = rest' := by
  have hread := readWords?_flatMap words rest
  rw [h, hlength, readWords?_flatMap] at hread
  cases hread
  exact ⟨rfl, rfl⟩

/-- So many words and one list behind them have no form in common with others. -/
theorem encodeArguments_list_last_inj {front front' values values' : List Uint256}
    (hfront : front.length = front'.length)
    (h : encodeArguments (front.map .word ++ [.words values]) =
      encodeArguments (front'.map .word ++ [.words values'])) :
    front = front' ∧ values = values' := by
  have hlength := congrArg List.length h
  rw [length_encodeArguments_list_last, length_encodeArguments_list_last] at hlength
  have hvalues : values.length = values'.length := by omega
  rw [encodeArguments_list_last, encodeArguments_list_last, hvalues] at h
  obtain ⟨rfl, h⟩ := eq_of_flatMap_bytes_append_eq hfront h
  have htail := List.append_cancel_left (List.append_cancel_left h)
  rw [← List.append_nil (values.flatMap _), ← List.append_nil (values'.flatMap _)] at htail
  obtain ⟨rfl, -⟩ := eq_of_flatMap_bytes_append_eq hvalues htail
  exact ⟨rfl, rfl⟩

end Abi

namespace Message

def front (message : Message) : List Uint256 :=
  message.contract :: (message.selector?.map Selector.word).toList

theorem arguments_eq (message : Message) :
    message.arguments = message.front.map .word ++ [.words message.payload.words] := by
  unfold arguments front selector?
  cases message.action <;> rfl

theorem length_arguments (message : Message) :
    (Abi.encodeArguments message.arguments).length =
      32 * (message.front.length + 2 + message.payload.words.length) := by
  rw [arguments_eq, Abi.length_encodeArguments_list_last]

/-- The arguments of a message read back, if the length of the payload has room in a word. -/
theorem decode?_arguments (message : Message)
    (h : message.payload.words.length < Bytes.limit 32) :
    Abi.decode? (message.arguments.map Abi.Argument.kind)
      (Abi.encodeArguments message.arguments) = some message.arguments := by
  have hcount : message.arguments.length ≤ 3 := by
    unfold arguments
    split <;> simp
  have hlimit : 32 * 3 < Bytes.limit 32 := by decide
  apply Abi.decode?_encodeArguments
  rw [arguments_eq] at hcount ⊢
  exact Abi.fits_list_last message.front (by omega) h

theorem functionId_send :
    Abi.functionId "sendMessage(uint256,uint256,uint256[])" = [0xb6, 0x64, 0x38, 0x38] := by
  decide +kernel

theorem functionId_consume :
    Abi.functionId "consumeMessage(uint256,uint256[])" = [0xc5, 0x78, 0x0d, 0x62] := by
  decide +kernel

/-- The four bytes tell the two functions apart. -/
theorem function_eq_of_functionId_eq {m m' : Message}
    (h : Abi.functionId m.function = Abi.functionId m'.function) :
    m.function = m'.function ∧ m.front.length = m'.front.length := by
  unfold function front selector? at *
  cases hm : m.action <;> cases hm' : m'.action <;> rw [hm, hm'] at h
  · exact ⟨rfl, rfl⟩
  · rw [functionId_send, functionId_consume] at h
    cases h
  · rw [functionId_send, functionId_consume] at h
    cases h
  · exact ⟨rfl, rfl⟩

/-- Call data tells the function and every argument. -/
theorem eq_of_calldata_eq {m m' : Message} (h : m.calldata = m'.calldata) :
    m.function = m'.function ∧ m.arguments = m'.arguments := by
  have hlength : (Abi.functionId m.function).length = (Abi.functionId m'.function).length := by
    rw [Abi.length_functionId, Abi.length_functionId]
  obtain ⟨hid, harguments⟩ := List.append_inj h hlength
  obtain ⟨hfunction, hfront⟩ := function_eq_of_functionId_eq hid
  rw [arguments_eq, arguments_eq] at harguments
  obtain ⟨hfront, hpayload⟩ := Abi.encodeArguments_list_last_inj hfront harguments
  exact ⟨hfunction, by rw [arguments_eq, arguments_eq, hfront, hpayload]⟩

/-- Call data is read as the message that it was made for. Behind the four bytes of its function it
has one word for each argument, one for the length of the payload and one for each word of the
payload, and reads as the fields of the message, which are those of the target, the name and the
payload that were given. The length must have room in its word, as that of any list in a memory has.
Messages with the same call data agree in the function and in all arguments, of any length. -/
theorem calldata_reads_as_message (target : Target) (payload : Payload)
    (hlength : payload.words.length < Bytes.limit 32) :
    (∀ name selector, Selector.ofName name = .ok selector →
      ∃ message arguments, toSend target name payload = .ok message ∧
        message.contract = target.l2Contract ∧ message.selector? = some selector ∧
        message.payload = payload ∧
        message.calldata =
          (Keccak.digest (Text.utf8 "sendMessage(uint256,uint256,uint256[])")).bytes.take 4 ++
            arguments ∧
        arguments.length = 32 * (4 + payload.words.length) ∧
        Abi.decode? [.word, .word, .words] arguments =
          some [.word message.contract, .word selector.word, .words message.payload.words]) ∧
    (∃ arguments, (toConsume target payload).contract = target.l2Contract ∧
      (toConsume target payload).selector? = none ∧ (toConsume target payload).payload = payload ∧
      (toConsume target payload).calldata =
        (Keccak.digest (Text.utf8 "consumeMessage(uint256,uint256[])")).bytes.take 4 ++
          arguments ∧
      arguments.length = 32 * (3 + payload.words.length) ∧
      Abi.decode? [.word, .words] arguments =
        some [.word target.l2Contract, .words payload.words]) ∧
    ∀ m m' : Message, m.calldata = m'.calldata →
      m.function = m'.function ∧ m.arguments = m'.arguments := by
  refine ⟨?_, ?_, fun m m' h => eq_of_calldata_eq h⟩
  · intro name selector hname
    let message : Message :=
      ⟨.send selector target.messageValue, target.l1Contract, target.l2Contract, payload⟩
    have hsend : toSend target name payload = .ok message := by
      unfold toSend
      rw [hname]
      rfl
    have hsize : (Abi.encodeArguments message.arguments).length =
        32 * (4 + payload.words.length) :=
      message.length_arguments
    exact ⟨message, _, hsend, rfl, rfl, rfl, rfl, hsize, message.decode?_arguments hlength⟩
  · have hsize : (Abi.encodeArguments (toConsume target payload).arguments).length =
        32 * (3 + payload.words.length) :=
      (toConsume target payload).length_arguments
    exact ⟨_, rfl, rfl, rfl, rfl, hsize,
      (toConsume target payload).decode?_arguments hlength⟩

theorem calldata_of_two_words_reads :
    [Uint256.one, Uint256.zero].length < Bytes.limit 32 ∧
    ∃ arguments,
      (toConsume ⟨default, Uint256.one, Uint256.zero⟩ ⟨[Uint256.one, Uint256.zero]⟩).calldata =
        (Keccak.digest (Text.utf8 "consumeMessage(uint256,uint256[])")).bytes.take 4 ++
          arguments ∧
      arguments.length = 32 * 5 ∧
      Abi.decode? [.word, .words] arguments =
        some [.word Uint256.one, .words [Uint256.one, Uint256.zero]] := by
  have hlength : [Uint256.one, Uint256.zero].length < Bytes.limit 32 := by decide
  obtain ⟨-, ⟨arguments, -, -, -, hcalldata, hsize, hread⟩, -⟩ :=
    calldata_reads_as_message ⟨default, Uint256.one, Uint256.zero⟩
      ⟨[Uint256.one, Uint256.zero]⟩ hlength
  exact ⟨hlength, arguments, hcalldata, hsize, hread⟩

end Message

end LayerMessaging
