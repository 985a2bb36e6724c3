import MalwareScan.Options
import MalwareScan.Proofs.Json.Codecs
import MalwareScan.Verdict.Basic
import MalwareScan.Verdict.Detailed

/-!
# Verdicts and options are read back

The records that make up a verdict, a detailed verdict and the options of a scan have faithful
codecs, so that no document that was written for one of them loses anything when it is read. Every
field keeps its own name and codec here; a field that was written under one name and read under
another would be missing, and its empty value would stand for it.
-/

namespace MalwareScan

open Json Json.Codec

/-! ## Verdicts -/

/-- Detections are read back. -/
theorem Detection.isFaithful_codec : Detection.codec.IsFaithful :=
  isFaithful_record (.cons isFaithful_text (by decide) <| .cons isFaithful_text (by decide) .nil)
    fun _ => rfl

/-- Verdicts are read back. -/
theorem Verdict.isFaithful_codec : Verdict.codec.IsFaithful :=
  isFaithful_record
    (.cons isFaithful_text (by decide) <| .cons isFaithful_int32 (by decide) <|
      .cons isFaithful_text (by decide) <| .cons isFaithful_text (by decide) <|
      .cons isFaithful_text (by decide) <|
      .cons (isFaithful_list Detection.isFaithful_codec) (by decide) .nil)
    fun _ => rfl

/-! ## Detailed verdicts -/

/-- Periods are read back. -/
theorem Period.isFaithful_codec : Period.codec.IsFaithful :=
  isFaithful_record (.cons isFaithful_text (by decide) <| .cons isFaithful_text (by decide) .nil)
    fun _ => rfl

/-- The versions of an engine are read back. -/
theorem EngineVersion.isFaithful_codec : EngineVersion.codec.IsFaithful := by
  have hnumber : (option int64).IsFaithful := isFaithful_option isFaithful_int64 nofun
  exact isFaithful_record
    (.cons isFaithful_text (by decide) <| .cons hnumber (by decide) <| .cons hnumber (by decide) <|
      .cons hnumber (by decide) <| .cons hnumber (by decide) <| .cons hnumber (by decide) <|
      .cons hnumber (by decide) .nil)
    fun _ => rfl

/-- Detections of an engine are read back. -/
theorem EngineDetection.isFaithful_codec : EngineDetection.codec.IsFaithful :=
  isFaithful_record
    (.cons isFaithful_text (by decide) <| .cons isFaithful_text (by decide) <|
      .cons isFaithful_text (by decide) <| .cons isFaithful_int32 (by decide) <|
      .cons isFaithful_int32 (by decide) <| .cons isFaithful_text (by decide) <|
      .cons isFaithful_text (by decide) .nil)
    fun _ => rfl

/-- Errors of an engine are read back. -/
theorem EngineFailure.isFaithful_codec : EngineFailure.codec.IsFaithful :=
  isFaithful_record (.cons isFaithful_int32 (by decide) <| .cons isFaithful_text (by decide) .nil)
    fun _ => rfl

/-- The report of an engine is read back. -/
theorem EngineReport.isFaithful_codec : EngineReport.codec.IsFaithful := by
  have hversion : (option EngineVersion.codec).IsFaithful :=
    isFaithful_option EngineVersion.isFaithful_codec encode_record_ne_null
  have hmalware : (option (list EngineDetection.codec)).IsFaithful :=
    isFaithful_option (isFaithful_list EngineDetection.isFaithful_codec) nofun
  have hfailures : (option (list EngineFailure.codec)).IsFaithful :=
    isFaithful_option (isFaithful_list EngineFailure.isFaithful_codec) nofun
  have hgrid : (option boolean).IsFaithful := isFaithful_option isFaithful_boolean nofun
  exact isFaithful_record
    (.cons isFaithful_uint64 (by decide) <| .cons isFaithful_int32 (by decide) <|
      .cons isFaithful_int32 (by decide) <| .cons hversion (by decide) <|
      .cons isFaithful_uint32 (by decide) <| .cons hmalware (by decide) <|
      .cons hfailures (by decide) <| .cons hgrid (by decide) <|
      .cons isFaithful_text (by decide) <| .cons isFaithful_text (by decide) .nil)
    fun _ => rfl

/-- The reports of the engines are read back. -/
theorem EngineReports.isFaithful_codec : EngineReports.codec.IsFaithful := by
  have hreport : (option EngineReport.codec).IsFaithful :=
    isFaithful_option EngineReport.isFaithful_codec encode_record_ne_null
  exact isFaithful_record (.cons hreport (by decide) <| .cons hreport (by decide) .nil)
    fun _ => rfl

/-- Detailed verdicts are read back. -/
theorem DetailedVerdict.isFaithful_codec : DetailedVerdict.codec.IsFaithful := by
  have hperiod : (option Period.codec).IsFaithful :=
    isFaithful_option Period.isFaithful_codec encode_record_ne_null
  have hengines : (option EngineReports.codec).IsFaithful :=
    isFaithful_option EngineReports.isFaithful_codec encode_record_ne_null
  have htags : (option (list text)).IsFaithful :=
    isFaithful_option (isFaithful_list isFaithful_text) nofun
  exact isFaithful_record
    (.cons isFaithful_text (by decide) <| .cons isFaithful_text (by decide) <|
      .cons hperiod (by decide) <| .cons isFaithful_text (by decide) <|
      .cons isFaithful_text (by decide) <| .cons isFaithful_text (by decide) <|
      .cons isFaithful_uint64 (by decide) <| .cons isFaithful_text (by decide) <|
      .cons isFaithful_text (by decide) <| .cons hengines (by decide) <|
      .cons htags (by decide) <| .cons isFaithful_text (by decide) <|
      .cons isFaithful_text (by decide) <| .cons isFaithful_text (by decide) .nil)
    fun _ => rfl

/-! ## Options -/

/-- The options of a scan are read back. -/
theorem ScanOptions.isFaithful_codec : ScanOptions.codec.IsFaithful :=
  isFaithful_record
    (.cons isFaithful_boolean (by decide) <| .cons isFaithful_boolean (by decide) <|
      .cons isFaithful_boolean (by decide) <| .cons isFaithful_boolean (by decide) <|
      .cons (isFaithful_list isFaithful_text) (by decide) .nil)
    fun _ => rfl

/-! ## Documents -/

/-- What is written for a verdict, a detailed verdict or the options of a scan is read back exactly:
whatever characters the texts have, however long the lists are, and whichever parts are absent. -/
theorem documents_read_back :
    (∀ verdict : Verdict, Verdict.codec.read (Verdict.codec.write verdict) = .ok verdict) ∧
    (∀ verdict : DetailedVerdict,
      DetailedVerdict.codec.read (DetailedVerdict.codec.write verdict) = .ok verdict) ∧
    ∀ options : ScanOptions,
      ScanOptions.codec.read (ScanOptions.codec.write options) = .ok options :=
  ⟨Verdict.isFaithful_codec.read_write, DetailedVerdict.isFaithful_codec.read_write,
    ScanOptions.isFaithful_codec.read_write⟩

end MalwareScan
