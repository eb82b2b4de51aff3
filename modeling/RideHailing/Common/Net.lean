import Mathlib.Data.List.Basic

/-!
# Reading and writing exactly `n` bytes

A socket is modelled by what the operating system answers to the successive
`read` and `write` calls on it.  `recv_n` and `send_n` are the retry loops over
these answers.  A reliable socket is one whose calls are never answered by an
error; there both loops depend only on the byte stream, not on its division
into calls.
-/

namespace RideHailing.Common

/-- The answer to one `read` call.  A chunk is nonempty; when a call asks for
fewer bytes, the remainder stays in the socket.  The end of the list is the end
of the stream. -/
inductive ReadAnswer
  | interrupted
  | failed
  | chunk (first : UInt8) (rest : List UInt8)
  deriving DecidableEq

/-- The answer to one `write` call: interrupted, failed, or at most
`extra + 1` bytes taken.  After the listed answers every call takes all. -/
inductive WriteAnswer
  | interrupted
  | failed
  | accepted (extra : Nat)
  deriving DecidableEq

/-- The pending answers of the reading side. -/
abbrev ReadEnd := List ReadAnswer

/-- The pending answers of the writing side. -/
abbrev WriteEnd := List WriteAnswer

namespace ReadEnd

/-- The bytes that the peer sends before closing. -/
def bytes : ReadEnd → List UInt8
  | [] => []
  | .chunk first rest :: answers => first :: rest ++ bytes answers
  | _ :: answers => bytes answers

/-- No call is answered by an error. -/
def Reliable (answers : ReadEnd) : Prop :=
  ReadAnswer.failed ∉ answers

/-- Put back the bytes that a call did not ask for. -/
def pushBack (data : List UInt8) (answers : ReadEnd) : ReadEnd :=
  match data with
  | [] => answers
  | first :: rest => .chunk first rest :: answers

/-- A whole stream answered by a single call. -/
def ofBytes (data : List UInt8) : ReadEnd :=
  pushBack data []

@[simp]
theorem bytes_nil : bytes [] = [] :=
  rfl

@[simp]
theorem bytes_pushBack (data : List UInt8) (answers : ReadEnd) :
    (pushBack data answers).bytes = data ++ answers.bytes := by
  cases data <;> rfl

@[simp]
theorem bytes_ofBytes (data : List UInt8) : (ofBytes data).bytes = data := by
  simp [ofBytes]

theorem Reliable.pushBack {answers : ReadEnd} (reliable : answers.Reliable)
    (data : List UInt8) : (answers.pushBack data).Reliable := by
  cases data with
  | nil => exact reliable
  | cons first rest => simpa [Reliable, ReadEnd.pushBack] using reliable

theorem reliable_ofBytes (data : List UInt8) : (ofBytes data).Reliable :=
  Reliable.pushBack (List.not_mem_nil) data

end ReadEnd

/-- The outcome of `recv_n`: its return value, the bytes stored at the buffer,
and the socket afterwards. -/
structure RecvResult where
  ret : Int
  data : List UInt8
  rest : ReadEnd

/-- The loop of `recv_n` with `nleft` bytes to go: whether an error ended it,
the bytes stored and the remaining answers. -/
def recvLoop : ReadEnd → Nat → Bool × List UInt8 × ReadEnd
  | [], _ => (false, [], [])
  | answer :: answers, nleft =>
      if nleft = 0 then (false, [], answer :: answers)
      else
        match answer with
        | .interrupted => recvLoop answers nleft
        | .failed => (true, [], answers)
        | .chunk first rest =>
            if (first :: rest).length ≤ nleft then
              let later := recvLoop answers (nleft - (first :: rest).length)
              (later.1, first :: rest ++ later.2.1, later.2.2)
            else
              (false, (first :: rest).take nleft,
                ReadEnd.pushBack ((first :: rest).drop nleft) answers)

/-- `recv_n`. -/
def recvN (socket : ReadEnd) (n : Nat) : RecvResult :=
  let outcome := recvLoop socket n
  { ret := if outcome.1 then -1 else outcome.2.1.length
    data := outcome.2.1
    rest := outcome.2.2 }

theorem recvLoop_reliable {socket : ReadEnd} (reliable : socket.Reliable) (nleft : Nat) :
    (recvLoop socket nleft).1 = false ∧
      (recvLoop socket nleft).2.1 = socket.bytes.take nleft ∧
      (recvLoop socket nleft).2.2.bytes = socket.bytes.drop nleft ∧
      (recvLoop socket nleft).2.2.Reliable := by
  induction socket generalizing nleft with
  | nil => simp [recvLoop, ReadEnd.Reliable]
  | cons answer answers ih =>
      have reliableRest : ReadEnd.Reliable answers :=
        fun member => reliable (List.mem_cons_of_mem answer member)
      unfold recvLoop
      by_cases zero : nleft = 0
      · subst zero
        simpa using reliable
      · rw [if_neg zero]
        cases answer with
        | interrupted => exact ih reliableRest nleft
        | failed => exact absurd List.mem_cons_self reliable
        | chunk first rest =>
            by_cases short : (first :: rest).length ≤ nleft
            · obtain ⟨ok, data, remaining, still⟩ :=
                ih reliableRest (nleft - (first :: rest).length)
              simp only [short, if_true]
              refine ⟨ok, ?_, ?_, still⟩
              · rw [data, ReadEnd.bytes, List.take_append, List.take_of_length_le short]
              · rw [remaining, ReadEnd.bytes, List.drop_append, List.drop_of_length_le short,
                  List.nil_append]
            · have long : nleft ≤ (first :: rest).length := Nat.le_of_not_le short
              simp only [short, if_false, ReadEnd.bytes, ReadEnd.bytes_pushBack]
              refine ⟨trivial, ?_, ?_, reliableRest.pushBack _⟩
              · rw [List.take_append_of_le_length long]
              · rw [List.drop_append_of_le_length long]

/-- On a reliable socket `recv_n` stores the next `n` bytes of the stream, or
all that is left of it, and returns how many these are. -/
theorem recvN_reliable {socket : ReadEnd} (reliable : socket.Reliable) (n : Nat) :
    (recvN socket n).ret = ((socket.bytes.take n).length : Int) ∧
      (recvN socket n).data = socket.bytes.take n ∧
      (recvN socket n).rest.bytes = socket.bytes.drop n ∧
      (recvN socket n).rest.Reliable := by
  obtain ⟨ok, data, remaining, still⟩ := recvLoop_reliable reliable n
  refine ⟨?_, data, remaining, still⟩
  simp [recvN, ok, data]

/-- Every call leaves in the stream what it did not store. -/
theorem recvLoop_bytes (socket : ReadEnd) (nleft : Nat) :
    (recvLoop socket nleft).2.1 ++ (recvLoop socket nleft).2.2.bytes = socket.bytes := by
  induction socket generalizing nleft with
  | nil => rfl
  | cons answer answers ih =>
      unfold recvLoop
      by_cases zero : nleft = 0
      · rw [if_pos zero]
        rfl
      · rw [if_neg zero]
        cases answer with
        | interrupted => exact ih nleft
        | failed => rfl
        | chunk first rest =>
            by_cases short : (first :: rest).length ≤ nleft
            · simp only [short, if_true]
              rw [List.append_assoc, ih]
              rfl
            · simp only [short, if_false, ReadEnd.bytes_pushBack, ReadEnd.bytes]
              rw [← List.append_assoc, List.take_append_drop]

theorem recvN_rest_le (socket : ReadEnd) (n : Nat) :
    (recvN socket n).rest.bytes.length ≤ socket.bytes.length := by
  rw [← recvLoop_bytes socket n, List.length_append]
  exact Nat.le_add_left _ _

/-- A call that reports bytes has taken them from the stream. -/
theorem recvN_rest_lt {socket : ReadEnd} {n : Nat} (positive : 0 < (recvN socket n).ret) :
    (recvN socket n).rest.bytes.length < socket.bytes.length := by
  have stored : 0 < (recvLoop socket n).2.1.length := by
    simp only [recvN] at positive
    split at positive
    · exact absurd positive (by decide)
    · exact_mod_cast positive
  rw [← recvLoop_bytes socket n, List.length_append]
  exact Nat.lt_add_of_pos_left stored

/-- A call that reports the full count has stored it. -/
theorem length_recvN_data {socket : ReadEnd} {n : Nat} (complete : (recvN socket n).ret = n) :
    (recvN socket n).data.length = n := by
  simp only [recvN] at complete ⊢
  split at complete
  · omega
  · exact_mod_cast complete

theorem recvN_bytes (socket : ReadEnd) (n : Nat) :
    (recvN socket n).data ++ (recvN socket n).rest.bytes = socket.bytes :=
  recvLoop_bytes socket n

/-- A call that no error ended falls short only at the end of the stream. -/
theorem recvLoop_short {socket : ReadEnd} {nleft : Nat}
    (unfailed : (recvLoop socket nleft).1 = false) :
    (recvLoop socket nleft).2.1.length = nleft ∨
      (recvLoop socket nleft).2.1.length < nleft ∧ (recvLoop socket nleft).2.2 = [] := by
  induction socket generalizing nleft with
  | nil =>
      rcases Nat.eq_zero_or_pos nleft with rfl | positive
      · exact Or.inl rfl
      · exact Or.inr ⟨positive, rfl⟩
  | cons answer answers ih =>
      unfold recvLoop at unfailed ⊢
      by_cases zero : nleft = 0
      · rw [if_pos zero]
        exact Or.inl zero.symm
      · rw [if_neg zero] at unfailed ⊢
        cases answer with
        | interrupted => exact ih unfailed
        | failed => cases unfailed
        | chunk first rest =>
            by_cases short : (first :: rest).length ≤ nleft
            · simp only [short, if_true] at unfailed ⊢
              rw [List.length_append]
              rcases ih unfailed with whole | ⟨less, ended⟩
              · exact Or.inl (by omega)
              · exact Or.inr ⟨by omega, ended⟩
            · simp only [short, if_false, List.length_take]
              exact Or.inl (Nat.min_eq_left (Nat.le_of_not_le short))

theorem recvN_short {socket : ReadEnd} {n : Nat} (positive : 0 < (recvN socket n).ret) :
    (recvN socket n).data.length = n ∨
      (recvN socket n).data.length < n ∧ (recvN socket n).rest = [] := by
  apply recvLoop_short
  cases failed : (recvLoop socket n).1 with
  | false => rfl
  | true =>
      simp only [recvN, failed, if_true] at positive
      exact absurd positive (by decide)

/-- The outcome of `send_n`: its return value, the bytes that reached the
stream, and the socket afterwards. -/
structure SendResult where
  ret : Int
  transmitted : List UInt8
  rest : WriteEnd

/-- The loop of `send_n` over the bytes still to be written: whether it wrote
them all, what reached the stream, and the remaining answers. -/
def sendLoop : WriteEnd → List UInt8 → Bool × List UInt8 × WriteEnd
  | [], data => (true, data, [])
  | answer :: answers, data =>
      if data = [] then (true, [], answer :: answers)
      else
        match answer with
        | .interrupted => sendLoop answers data
        | .failed => (false, [], answers)
        | .accepted extra =>
            let later := sendLoop answers (data.drop (extra + 1))
            (later.1, data.take (extra + 1) ++ later.2.1, later.2.2)

/-- `send_n`. -/
def sendN (socket : WriteEnd) (data : List UInt8) : SendResult :=
  let outcome := sendLoop socket data
  { ret := if outcome.1 then data.length else -1
    transmitted := outcome.2.1
    rest := outcome.2.2 }

namespace WriteEnd

/-- No call is answered by an error. -/
def Reliable (answers : WriteEnd) : Prop :=
  WriteAnswer.failed ∉ answers

theorem reliable_nil : Reliable [] :=
  List.not_mem_nil

end WriteEnd

theorem sendLoop_reliable {socket : WriteEnd} (reliable : socket.Reliable)
    (data : List UInt8) :
    (sendLoop socket data).1 = true ∧ (sendLoop socket data).2.1 = data ∧
      (sendLoop socket data).2.2.Reliable := by
  induction socket generalizing data with
  | nil => exact ⟨rfl, rfl, reliable⟩
  | cons answer answers ih =>
      have reliableRest : WriteEnd.Reliable answers :=
        fun member => reliable (List.mem_cons_of_mem answer member)
      unfold sendLoop
      by_cases empty : data = []
      · simpa [empty] using reliable
      · rw [if_neg empty]
        cases answer with
        | interrupted => exact ih reliableRest data
        | failed => exact absurd List.mem_cons_self reliable
        | accepted extra =>
            obtain ⟨ok, transmitted, still⟩ := ih reliableRest (data.drop (extra + 1))
            exact ⟨ok, by simp only [transmitted, List.take_append_drop], still⟩

/-- On a reliable socket `send_n` transmits its whole buffer, however the
writes are divided. -/
theorem sendN_reliable {socket : WriteEnd} (reliable : socket.Reliable)
    (data : List UInt8) :
    (sendN socket data).ret = (data.length : Int) ∧
      (sendN socket data).transmitted = data ∧ (sendN socket data).rest.Reliable := by
  obtain ⟨ok, transmitted, still⟩ := sendLoop_reliable reliable data
  exact ⟨by simp [sendN, ok], transmitted, still⟩

end RideHailing.Common
