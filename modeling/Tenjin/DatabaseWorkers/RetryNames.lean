import Tenjin.DatabaseWorkers.RetryChain
import Tenjin.ResourceAuxillary.StreamIds

/-!
# The names of retry batches

The encoder and the two decoders of `utils/strings.py`.  The retry limit of a counter batch
and the table of its deltas are read off its name.

* `NamePart` is a group name or an identifier that can be told apart in a name.
* `RetryNameCodec` is the purpose: both decoders agree with the encoder.
* `bumpRetryCounter_generate` — the decoder that splits the name agrees with it.
* `retryNameCodec_never` — the one that splits the separator never does.
-/

namespace Tenjin
namespace DatabaseWorkers

open Python ResourceAuxillary

/-- A text that is not empty and has no separator in it. -/
structure NamePart where
  text : String
  nonempty : text ≠ ""
  plain : '-' ∉ text.toList

/-- `bump_retry_counter`.  Unpacking anything but three parts is a `ValueError`. -/
def bumpRetryCounter (retryBatch : String) : Except Exn String :=
  match pySplit '-' retryBatch with
  | [counterName, identifier, version] => do
      let version ← pyInt version
      return pyJoin internalNameSeperator [counterName, identifier, toString (version + 1)]
  | _ => .error .valueError

/-- What is encoded is decoded, the name of a group is that of a batch without retries, and
the next retry has the next version. -/
structure RetryNameCodec (newIdentifier : String) (group identifier : NamePart)
    (version : ℕ) : Prop where
  extracted : extractBatchMetadata
      (generateRetryBatchName newIdentifier group.text version (some identifier.text)) =
    .ok (group.text, some identifier.text, version)
  extracted_group : extractBatchMetadata group.text = .ok (group.text, none, 0)
  bumped : bumpRetryCounter
      (generateRetryBatchName newIdentifier group.text version (some identifier.text)) =
    .ok (generateRetryBatchName newIdentifier group.text (version + 1) (some identifier.text))

section
variable (newIdentifier : String) (group identifier : NamePart) (version : ℕ)

/-- The parts of the name of a retry batch. -/
theorem NamePart.pySplit_generate : pySplit '-'
    (generateRetryBatchName newIdentifier group.text version (some identifier.text)) =
      [group.text, identifier.text, digitsText version] :=
  pySplit_generateRetryBatchName group.plain identifier.plain identifier.nonempty version

/-- `int` of the digits of a number. -/
theorem pyInt_digitsText (n : ℕ) : pyInt (digitsText n) = .ok n := by
  have hne : Nat.toDigits 10 n ≠ [] := List.ne_nil_of_length_pos Nat.length_toDigits_pos
  rw [digitsText, pyInt_of_digitText (digitText_toDigits n) hne,
    Nat.ofDigitChars_ten_toDigits]

/-- The version of a retry batch is bumped. -/
theorem bumpRetryCounter_generate : bumpRetryCounter
      (generateRetryBatchName newIdentifier group.text version (some identifier.text)) =
    .ok (generateRetryBatchName newIdentifier group.text (version + 1)
      (some identifier.text)) := by
  have hchosen : identifier.text.isEmpty = false := by
    rw [Bool.eq_false_iff]
    exact fun h => identifier.nonempty (String.isEmpty_iff.mp h)
  unfold bumpRetryCounter
  rw [NamePart.pySplit_generate]
  simp only [pyInt_digitsText, bind, Except.bind, pure, Except.pure, generateRetryBatchName,
    hchosen, Bool.false_eq_true, if_false]

/-- The name of a group is not the separator. -/
theorem NamePart.ne_separator (part : NamePart) : part.text ≠ "-" := by
  intro h
  have hplain := part.plain
  rw [h] at hplain
  exact hplain (List.mem_singleton_self '-')

/-- A name that splits into three parts is not empty and not the separator. -/
theorem NamePart.extract_generate : extractBatchMetadata
      (generateRetryBatchName newIdentifier group.text version (some identifier.text)) =
    .ok ("-", none, 0) := by
  have hparts := NamePart.pySplit_generate newIdentifier group identifier version
  refine extractBatchMetadata_eq (fun h => ?_) fun h => ?_
  · rw [h, show pySplit '-' "" = [""] from rfl] at hparts
    simp at hparts
  · rw [h, show pySplit '-' "-" = ["", ""] from rfl] at hparts
    simp at hparts

end

/-- For every group, identifier and version the metadata of a retry batch and those of the
group itself are `-` without retries: the purpose is never met, though the next version is
the right one. -/
theorem retryNameCodec_never (newIdentifier : String) (group identifier : NamePart)
    (version : ℕ) :
    ¬ RetryNameCodec newIdentifier group identifier version ∧
      extractBatchMetadata
          (generateRetryBatchName newIdentifier group.text version (some identifier.text)) =
        .ok ("-", none, 0) ∧
      extractBatchMetadata group.text = .ok ("-", none, 0) ∧
      bumpRetryCounter
          (generateRetryBatchName newIdentifier group.text version (some identifier.text)) =
        .ok (generateRetryBatchName newIdentifier group.text (version + 1)
          (some identifier.text)) := by
  have hbatch := NamePart.extract_generate newIdentifier group identifier version
  have hgroup := extractBatchMetadata_eq group.nonempty group.ne_separator
  refine ⟨fun h => ?_, hbatch, hgroup,
    bumpRetryCounter_generate newIdentifier group identifier version⟩
  have hread := hbatch.symm.trans h.extracted
  simp at hread

/-- The group of the docstring. -/
def postVotes : NamePart := ⟨"post_votes", by decide, by decide⟩

/-- Its identifier. -/
def firstBatch : NamePart := ⟨"T", by decide, by decide⟩

/-- The batch of the docstring, at its first retry. -/
theorem postVotes_not_decoded : ¬ RetryNameCodec "" postVotes firstBatch 1 := by
  intro hcodec
  have hgroup := hcodec.extracted_group
  have hread : extractBatchMetadata "post_votes" = .ok ("-", none, 0) :=
    extractBatchMetadata_eq (by decide) (by decide)
  have hnames : "-" = postVotes.text := by simpa using hread.symm.trans hgroup
  exact absurd hnames (by decide)

end DatabaseWorkers
end Tenjin
