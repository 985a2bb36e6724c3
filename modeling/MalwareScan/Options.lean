import MalwareScan.Error
import MalwareScan.Json.Codec

/-!
# Options of a scan

What a caller may ask of one scan: which kinds of detection to run, how detailed the verdict is, and
the tags under which it can be found later. Tags are limited in number and length.
-/

namespace MalwareScan

open Json (Codec)

/-- The most tags of one scan. -/
def maxTags : Nat := 8

/-- The most characters of one tag. -/
def maxTagLength : Nat := 63

/-- The options of one scan. -/
structure ScanOptions where
  pml : Bool := false
  feedback : Bool := false
  verbose : Bool := false
  activeContent : Bool := false
  tags : List String := []
deriving DecidableEq

/-- A tag within the limits. -/
def isTag (tag : String) : Bool :=
  1 ≤ tag.length && tag.length ≤ maxTagLength

/-- At most `maxTags` tags, all of them within the limits. The first tag that is not is named. -/
def validateTags (tags : List String) : Outcome Unit :=
  if maxTags < tags.length then .error (.tooManyTags maxTags)
  else
    match tags.find? fun tag => !isTag tag with
    | some tag => .error (.tagLength maxTagLength tag)
    | none => .ok ()

namespace ScanOptions

/-- The tags are within the limits. -/
def validate (options : ScanOptions) : Outcome Unit :=
  validateTags options.tags

/-- The options with one more tag. -/
def addTag (options : ScanOptions) (tag : String) : ScanOptions :=
  { options with tags := options.tags ++ [tag] }

/-- How options are written. -/
def codec : Codec ScanOptions :=
  .record "ScanOptions"
    (.cons { name := "pml", codec := .boolean, get := pml } <|
      .cons { name := "feedback", codec := .boolean, get := feedback } <|
      .cons { name := "verbose", codec := .boolean, get := verbose } <|
      .cons { name := "active_content", codec := .boolean, get := activeContent } <|
      .cons { name := "tags", codec := .list .text, get := tags } .nil)
    fun (pml, feedback, verbose, activeContent, tags, ()) =>
      { pml, feedback, verbose, activeContent, tags }

end ScanOptions

end MalwareScan
