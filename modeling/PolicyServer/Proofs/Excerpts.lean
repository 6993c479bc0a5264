import Mathlib.Data.List.DropRight
import PolicyServer.Fix.Exchange
import PolicyServer.Preview.Output

/-!
Excerpts of streams: what is kept of a stream depends on its bytes, not on the chunks they come in.

Both readers cut what they hold after each chunk. The one that keeps the end holds, after any chunks, the
end of all their bytes; the one that keeps the beginning holds all of them until there are too many.
-/

namespace PolicyServer

theorem Preview.keepChunk_rtake (limit : Nat) (stream chunk : Bytes) :
    keepChunk limit (stream.rtake limit) chunk = (stream ++ chunk).rtake limit := by
  -- The longer stream is what was dropped before, with all that the reader holds now behind it.
  let dropped := stream.take (stream.length - limit)
  let held := stream.rtake limit ++ chunk
  have whole : stream ++ chunk = dropped ++ held := by
    rw [← List.append_assoc, List.rtake, List.take_append_drop]
  have passed : dropped.length = stream.length - limit := by
    rw [List.length_take]
    omega
  have before : dropped.length ≤ (stream ++ chunk).length - limit := by
    rw [passed, List.length_append]
    omega
  have excess : (stream ++ chunk).length - limit - dropped.length = held.length - limit := by
    rw [passed, List.length_append, List.length_append, List.rtake, List.length_drop]
    omega
  calc keepChunk limit (stream.rtake limit) chunk
      = held.drop (held.length - limit) := rfl
    _ = dropped.drop ((stream ++ chunk).length - limit) ++
          held.drop ((stream ++ chunk).length - limit - dropped.length) := by
        rw [List.drop_eq_nil_of_le before, List.nil_append, excess]
    _ = (dropped ++ held).drop ((stream ++ chunk).length - limit) := List.drop_append.symm
    _ = (stream ++ chunk).rtake limit := by
        rw [← whole]
        rfl

theorem Preview.foldl_keepChunk (limit : Nat) (stream : Bytes) (chunks : List Bytes) :
    chunks.foldl (keepChunk limit) (stream.rtake limit) = (stream ++ chunks.flatten).rtake limit := by
  induction chunks generalizing stream with
  | nil => rw [List.foldl_nil, List.flatten_nil, List.append_nil]
  | cons chunk chunks ih =>
    rw [List.foldl_cons, keepChunk_rtake, ih, List.flatten_cons, List.append_assoc]

theorem Preview.keepLast_eq (limit : Nat) (chunks : List Bytes) :
    keepLast limit chunks = chunks.flatten.rtake limit := by
  have kept := foldl_keepChunk limit [] chunks
  rwa [List.rtake_nil, List.nil_append] at kept

theorem Fix.refusalText_eq (body : Bytes) (fits : body.length ≤ maxRefusal) (chunks : List Bytes) :
    refusalText body chunks =
      if (body ++ chunks.flatten).length ≤ maxRefusal then Utf8.decodeLossy (body ++ chunks.flatten)
      else Utf8.decodeLossy ((body ++ chunks.flatten).take maxRefusal) ++ "...(truncated)" := by
  induction chunks generalizing body with
  | nil =>
    rw [List.flatten_nil, List.append_nil, if_pos fits]
    rfl
  | cons chunk chunks ih =>
    rw [refusalText, List.flatten_cons, ← List.append_assoc]
    split
    · -- The bytes are too many with this chunk, and those that are told have all come.
      have more : ¬ (body ++ chunk ++ chunks.flatten).length ≤ maxRefusal := by
        rw [List.length_append]
        omega
      have first : (body ++ chunk ++ chunks.flatten).take maxRefusal = (body ++ chunk).take maxRefusal :=
        List.take_append_of_le_length (by omega)
      rw [if_neg more, first]
    · exact ih _ (by omega)

/-- What is kept of a stream depends on its bytes only. Of what a program complains these are the last
ones, as many as may be kept. Of a refusal it is the whole text if that is short enough; else it is the
text of its first bytes, and a mark that there were more. -/
theorem excerpts_of_whole_streams (limit : Nat) (chunks : List Bytes) :
    (Preview.keepLast limit chunks <:+ chunks.flatten ∧
      (Preview.keepLast limit chunks).length = min chunks.flatten.length limit) ∧
    (chunks.flatten.length ≤ 0x8000 → Fix.refusalText [] chunks = Utf8.decodeLossy chunks.flatten) ∧
    (0x8000 < chunks.flatten.length → ∃ told rest, chunks.flatten = told ++ rest ∧ told.length = 0x8000 ∧
      Fix.refusalText [] chunks = Utf8.decodeLossy told ++ "...(truncated)") ∧
    ∀ others : List Bytes, others.flatten = chunks.flatten →
      Preview.keepLast limit others = Preview.keepLast limit chunks ∧
      Fix.refusalText [] others = Fix.refusalText [] chunks := by
  have most : Fix.maxRefusal = 0x8000 := rfl
  have text (chunks : List Bytes) := Fix.refusalText_eq [] (Nat.zero_le _) chunks
  simp only [List.nil_append, most] at text
  refine ⟨⟨?_, ?_⟩, fun short => ?_, fun long => ?_, fun others same => ⟨?_, ?_⟩⟩
  · rw [Preview.keepLast_eq]
    exact List.drop_suffix _ _
  · rw [Preview.keepLast_eq, List.rtake, List.length_drop]
    omega
  · rw [text, if_pos short]
  · refine ⟨chunks.flatten.take 0x8000, chunks.flatten.drop 0x8000, (List.take_append_drop _ _).symm, ?_, ?_⟩
    · rw [List.length_take]
      omega
    · rw [text, if_neg (by omega)]
  · rw [Preview.keepLast_eq, Preview.keepLast_eq, same]
  · rw [text, text, same]

end PolicyServer
