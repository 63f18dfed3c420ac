import Mathlib.Data.List.SplitBy
import FileSeal.Proofs.Caching
import FileSeal.Proofs.KeyFile

namespace FileSeal

open KeySource

namespace Chunk

/-- The bytes that a read brings. -/
def bytes : Chunk → Bytes
  | data bytes => bytes
  | .failure _ => []

/-- The failure of a read that is not tried again. -/
def failure? : Chunk → Option IoFailure
  | data _ => none
  | .failure cause => if cause.kind = .interrupted then none else some cause

/-- Whether a call reads no further: it has come to the end of the stream, or has failed. -/
def isLast (chunk : Chunk) : Bool :=
  chunk = data [] || chunk.failure?.isSome

/-- A read as reads of one byte each. An interrupted read is none at all. -/
def bytewise : Chunk → List Chunk
  | data [] => [data []]
  | data bytes => bytes.map fun byte => data [byte]
  | .failure cause => if cause.kind = .interrupted then [] else [.failure cause]

end Chunk

/-- The reads of a stream, cut after each one that is the last of its call. -/
def segments (script : List Chunk) : List (List Chunk) :=
  script.splitBy fun chunk _ => !chunk.isLast

/-- The reads of one call. There are none when all of the stream has been read. -/
def segmentAt (script : List Chunk) (n : Nat) : List Chunk :=
  (segments script)[n]?.getD []

/-- All bytes that some reads bring. -/
def content (reads : List Chunk) : Bytes :=
  reads.flatMap Chunk.bytes

/-- The failure that the reads of one call end in, if they do not come to the end of the stream. -/
def ending? (reads : List Chunk) : Option IoFailure :=
  reads.getLast?.bind Chunk.failure?

/-- What the reads of one call come to: all of their bytes, or the failure at the end. -/
def gathered (reads : List Chunk) : Except IoFailure Bytes :=
  match ending? reads with
  | some failure => .error failure
  | none => .ok (content reads)

theorem flatten_segments (script : List Chunk) : (segments script).flatten = script :=
  List.flatten_splitBy _ script

theorem segments_cons_of_last {chunk : Chunk} (last : chunk.isLast = true) (rest : List Chunk) :
    segments (chunk :: rest) = [chunk] :: segments rest := by
  have apart : ∀ x ∈ [chunk].getLast?, ∀ y ∈ rest.head?, (!x.isLast) = false := by
    intro x mem _ _
    have same : chunk = x := Option.some.inj mem
    rw [← same, last]
    rfl
  exact List.splitBy_append apart

theorem segments_cons {chunk : Chunk} (further : chunk.isLast = false) (rest : List Chunk) :
    segments (chunk :: rest) =
      (chunk :: (segments rest).headD []) :: (segments rest).tail := by
  cases cut : segments rest with
  | nil =>
    rw [List.splitBy_eq_nil.mp cut]
    rfl
  | cons segment others =>
    -- The chunk goes to the first segment, whose own last read stays where it is.
    obtain ⟨rfl, nonempty, inner, between⟩ := List.splitBy_eq_iff.mp cut
    obtain ⟨border, later⟩ := List.isChain_cons.mp between
    refine List.splitBy_eq_iff.mpr ⟨rfl, ?_, ?_, ?_⟩
    · intro mem
      rcases List.mem_cons.mp mem with empty | mem
      · cases empty
      · exact nonempty (List.mem_cons_of_mem segment mem)
    · intro part mem
      rcases List.mem_cons.mp mem with rfl | mem
      · refine List.isChain_cons.mpr ⟨fun _ _ => ?_, inner segment List.mem_cons_self⟩
        rw [further]
        rfl
      · exact inner part (List.mem_cons_of_mem segment mem)
    · refine List.isChain_cons.mpr ⟨fun next mem => ?_, later⟩
      obtain ⟨full, full', ends⟩ := border next mem
      refine ⟨List.cons_ne_nil _ _, full', ?_⟩
      simp only [List.headD_cons, List.getLast_cons full]
      exact ends

/-- What is left of a stream after some segments is cut into the other ones. -/
theorem segments_flatten_drop (script : List Chunk) (n : Nat) :
    segments ((segments script).drop n).flatten = (segments script).drop n := by
  obtain ⟨-, nonempty, inner, between⟩ := List.splitBy_eq_iff.mp (rfl : segments script = _)
  refine List.splitBy_flatten ?_ ?_ ?_
  · exact fun mem => nonempty (List.mem_of_mem_drop mem)
  · exact fun segment mem => inner segment (List.mem_of_mem_drop mem)
  · exact between.drop n

theorem gathered_cons {chunk : Chunk} (further : chunk.isLast = false) (reads : List Chunk) :
    gathered (chunk :: reads) = (chunk.bytes ++ ·) <$> gathered reads := by
  have passes : chunk.failure? = none := by
    simp only [Chunk.isLast, Bool.or_eq_false_iff] at further
    simpa using further.2
  have same : ending? (chunk :: reads) = ending? reads := by
    unfold ending?
    rw [List.getLast?_cons]
    cases reads.getLast? with
    | none => exact passes
    | some last => rfl
  unfold gathered
  rw [same]
  cases ending? reads <;> rfl

theorem readToEnd_cons_of_last {chunk : Chunk} (last : chunk.isLast = true) (rest : List Chunk) :
    readToEnd (chunk :: rest) = (gathered [chunk], rest) := by
  cases chunk with
  | data bytes =>
    have empty : bytes = [] := by simpa [Chunk.isLast, Chunk.failure?] using last
    rw [empty]
    rfl
  | failure cause =>
    have final : cause.kind ≠ .interrupted := by simpa [Chunk.isLast, Chunk.failure?] using last
    simp [readToEnd, gathered, ending?, Chunk.failure?, final]

theorem readToEnd_cons {chunk : Chunk} (further : chunk.isLast = false) (rest : List Chunk) :
    readToEnd (chunk :: rest) =
      ((chunk.bytes ++ ·) <$> (readToEnd rest).1, (readToEnd rest).2) := by
  cases chunk with
  | data bytes =>
    have full : bytes ≠ [] := by simpa [Chunk.isLast, Chunk.failure?] using further
    rw [readToEnd]
    · rfl
    · exact full
  | failure cause =>
    have again : cause.kind = .interrupted := by
      simpa [Chunk.isLast, Chunk.failure?] using further
    rw [readToEnd, if_pos again]
    exact Prod.ext (id_map (readToEnd rest).1).symm rfl

/-- One call reads one segment. -/
theorem readToEnd_eq (script : List Chunk) :
    readToEnd script =
      (gathered ((segments script).headD []), (segments script).tail.flatten) := by
  induction script with
  | nil => rfl
  | cons chunk rest ih =>
    cases last : chunk.isLast with
    | true =>
      rw [readToEnd_cons_of_last last, segments_cons_of_last last, List.headD_cons,
        List.tail_cons, flatten_segments]
    | false =>
      rw [readToEnd_cons last, segments_cons last, List.headD_cons, List.tail_cons,
        gathered_cons last, ih]

/-- The stream with every byte in a read of its own and without the interrupted reads. -/
def bytewise (script : List Chunk) : List Chunk :=
  script.flatMap Chunk.bytewise

theorem readToEnd_singles (bytes : Bytes) (rest : List Chunk) :
    readToEnd (bytes.map (fun byte => .data [byte]) ++ rest) =
      ((bytes ++ ·) <$> (readToEnd rest).1, (readToEnd rest).2) := by
  induction bytes with
  | nil => exact Prod.ext (id_map (readToEnd rest).1).symm rfl
  | cons byte bytes ih =>
    rw [List.map_cons, List.cons_append, readToEnd_cons rfl, ih]
    cases (readToEnd rest).1 <;> rfl

theorem bytewise_append (first second : List Chunk) :
    bytewise (first ++ second) = bytewise first ++ bytewise second :=
  List.flatMap_append

theorem bytewise_pieces {pieces : List Bytes} (full : ∀ piece ∈ pieces, piece ≠ []) :
    bytewise (pieces.map .data) = pieces.flatten.map fun byte => .data [byte] := by
  induction pieces with
  | nil => rfl
  | cons piece pieces ih =>
    have first : (Chunk.data piece).bytewise = piece.map fun byte => .data [byte] := by
      rw [Chunk.bytewise]
      exact full piece List.mem_cons_self
    have others := ih fun other mem => full other (List.mem_cons_of_mem piece mem)
    rw [List.map_cons, bytewise, List.flatMap_cons, first, List.flatten_cons, List.map_append]
    exact congrArg _ others

theorem bytewise_interrupted {cause : IoFailure} (again : cause.kind = .interrupted)
    (rest : List Chunk) : bytewise (.failure cause :: rest) = bytewise rest := by
  rw [bytewise, List.flatMap_cons, Chunk.bytewise, if_pos again, List.nil_append]
  rfl

/-- A call makes of single bytes what it makes of the stream, and leaves as much. -/
theorem readToEnd_bytewise (script : List Chunk) :
    readToEnd (bytewise script) = ((readToEnd script).1, bytewise (readToEnd script).2) := by
  induction script with
  | nil => rfl
  | cons chunk rest ih =>
    have cut : bytewise (chunk :: rest) = chunk.bytewise ++ bytewise rest := rfl
    rw [cut]
    cases chunk with
    | data bytes =>
      cases bytes with
      | nil => rfl
      | cons byte bytes =>
        rw [Chunk.bytewise, readToEnd_singles, ih, readToEnd_cons rfl]
        · rfl
        · exact List.cons_ne_nil byte bytes
    | failure cause =>
      by_cases again : cause.kind = .interrupted
      · rw [Chunk.bytewise, if_pos again, List.nil_append, ih, readToEnd, if_pos again]
      · rw [Chunk.bytewise, if_neg again, List.singleton_append, readToEnd, if_neg again, readToEnd,
          if_neg again]

namespace BasicSource

/-- The answer of a stream whose reads have come to something. -/
def ofReads : Except IoFailure Bytes → Except Fault Key
  | .error failure => .error (streamFault failure)
  | .ok bytes => Key.ofBytes bytes

theorem read_stream (fs : FileSystem) (script : List Chunk) :
    KeySource.read fs (stream script) =
      { result := ofReads (readToEnd script).1, next := stream (readToEnd script).2 } := by
  simp only [KeySource.read, BasicSource.read, readStream]
  rcases readToEnd script with ⟨_ | _, _⟩ <;> rfl

variable (files : Nat → FileSystem) (script : List Chunk)

theorem after_stream (n : Nat) :
    after files (stream script) n = stream ((segments script).drop n).flatten := by
  induction n with
  | zero => rw [List.drop_zero, flatten_segments]; rfl
  | succ n ih =>
    rw [after, ih, read_stream, readToEnd_eq, segments_flatten_drop, List.tail_drop]

theorem answer_stream (n : Nat) :
    answer files (stream script) n = ofReads (gathered (segmentAt script n)) := by
  rw [answer, after_stream, read_stream, readToEnd_eq, segments_flatten_drop,
    List.headD_eq_head?_getD, List.head?_drop, segmentAt]

theorem answer_stream_of_failure {n : Nat} {failure : IoFailure}
    (ends : ending? (segmentAt script n) = some failure) :
    answer files (stream script) n = .error (streamFault failure) := by
  rw [answer_stream, gathered, ends]
  rfl

theorem answer_stream_of_end {n : Nat} (ends : ending? (segmentAt script n) = none) :
    answer files (stream script) n = Key.ofBytes (content (segmentAt script n)) := by
  rw [answer_stream, gathered, ends]
  rfl

theorem answer_stream_of_past {n : Nat} (past : (segments script).length ≤ n) :
    answer files (stream script) n = .error (Key.lengthFault 0) := by
  have empty : segmentAt script n = [] := by
    rw [segmentAt, List.getElem?_eq_none past]
    rfl
  rw [answer_stream, empty]
  rfl

theorem after_stream_bytewise (n : Nat) :
    ∃ left, after files (stream script) n = stream left ∧
      after files (stream (bytewise script)) n = stream (bytewise left) := by
  induction n with
  | zero => exact ⟨script, rfl, rfl⟩
  | succ n ih =>
    obtain ⟨left, same, same'⟩ := ih
    refine ⟨(readToEnd left).2, ?_, ?_⟩
    · rw [after, same, read_stream]
    · rw [after, same', read_stream, readToEnd_bytewise]

theorem answer_stream_bytewise (n : Nat) :
    answer files (stream (bytewise script)) n = answer files (stream script) n := by
  obtain ⟨left, same, same'⟩ := after_stream_bytewise files script n
  rw [answer, answer, same, same', read_stream, read_stream, readToEnd_bytewise]

/-- Two streams that every call finds alike. -/
def SameAnswers (script other : List Chunk) : Prop :=
  ∀ n, answer files (stream script) n = answer files (stream other) n

theorem sameAnswers_of_bytewise {script other : List Chunk}
    (same : bytewise script = bytewise other) : SameAnswers files script other := by
  intro n
  rw [← answer_stream_bytewise files script, same, answer_stream_bytewise]

theorem sameAnswers_of_flatten (before after : List Chunk) {pieces pieces' : List Bytes}
    (full : ∀ piece ∈ pieces ++ pieces', piece ≠ []) (same : pieces.flatten = pieces'.flatten) :
    SameAnswers files (before ++ pieces.map .data ++ after)
      (before ++ pieces'.map .data ++ after) := by
  have first := bytewise_pieces fun piece mem => full piece (List.mem_append_left _ mem)
  have second := bytewise_pieces fun piece mem => full piece (List.mem_append_right _ mem)
  apply sameAnswers_of_bytewise
  simp only [bytewise_append, first, second, same]

theorem sameAnswers_of_interrupted (before after : List Chunk) {cause : IoFailure}
    (again : cause.kind = .interrupted) :
    SameAnswers files (before ++ .failure cause :: after) (before ++ after) := by
  apply sameAnswers_of_bytewise
  rw [bytewise_append, bytewise_append, bytewise_interrupted again]

/-- Every call reads one segment of a stream, up to and including the read that ends it, and makes
a key of all its bytes, by the rule that holds for key files too. It fails if they are not as many
as in a key, as they are not when nothing is left, or if the segment ends in a failure. How the
bytes are cut into reads makes no difference, and neither do interrupted reads. -/
theorem stream_reads_segments (files : Nat → FileSystem) (script : List Chunk) :
    (∀ n, after files (stream script) n = stream ((segments script).drop n).flatten) ∧
    (∀ n failure, ending? (segmentAt script n) = some failure →
      answer files (stream script) n = .error (.ofIo
        ⟨.internal, some .keyUnavailable, s!"error reading key: {failure.text}"⟩ failure)) ∧
    (∀ n, ending? (segmentAt script n) = none →
      (∀ key, answer files (stream script) n = .ok key ↔
        key.toBytes = content (segmentAt script n)) ∧
      ((content (segmentAt script n)).length ≠ 32 →
        answer files (stream script) n =
          .error (Key.lengthFault (content (segmentAt script n)).length)) ∧
      ∀ fs path, fs.read path = .ok (content (segmentAt script n)) →
        ((KeySource.read fs (file path)).result.mapError fun fault =>
            (fault.category, fault.kind)) =
          (answer files (stream script) n).mapError fun fault => (fault.category, fault.kind)) ∧
    (∀ n, (segments script).length ≤ n →
      answer files (stream script) n = .error (Key.lengthFault 0)) ∧
    (∀ other, bytewise script = bytewise other → SameAnswers files script other) ∧
    (∀ (before after : List Chunk) (pieces pieces' : List Bytes),
      (∀ piece ∈ pieces ++ pieces', piece ≠ []) → pieces.flatten = pieces'.flatten →
        SameAnswers files (before ++ pieces.map .data ++ after)
          (before ++ pieces'.map .data ++ after)) ∧
    ∀ (before after : List Chunk) (cause : IoFailure), cause.kind = .interrupted →
      SameAnswers files (before ++ .failure cause :: after) (before ++ after) := by
  refine ⟨after_stream files script, fun _ _ => answer_stream_of_failure files script, ?_,
    fun _ => answer_stream_of_past files script, fun _ => sameAnswers_of_bytewise files,
    fun before after _ _ => sameAnswers_of_flatten files before after,
    fun before after _ => sameAnswers_of_interrupted files before after⟩
  intro n ends
  rw [answer_stream_of_end files script ends]
  refine ⟨fun key => ⟨fun h => (Key.toBytes_of_ofBytes h).symm, fun h => ?_⟩,
    Key.ofBytes_of_length_ne, ?_⟩
  · rw [← h, key.ofBytes_toBytes]
  · intro fs path read
    rw [result_read_file_of_ok read]
    cases Key.ofBytes (content (segmentAt script n)) <;> rfl

end BasicSource

end FileSeal
