/-
# ReleaseHistory.Recognition -- releases from recognised names

A name recogniser reports what it found in a release name as a record of values
of any type.  `Release.ofReport` reads a release from such a report and
normalizes it.  What was not recognised stays empty.

* Of several numbers the first counts; what is no whole number counts as 0, and
  an infinite one cannot be represented.
* A date of release takes the place of the year.
* The report does not tell a corrected release from one packed again.  When it
  mentions either, the marker words after the title decide; without any, the
  release is a corrected one.
-/
import ReleaseHistory.Fault
import ReleaseHistory.Release.Projection
import ReleaseHistory.Value.Display

namespace ReleaseHistory

set_option autoImplicit false

namespace Recognition

/-! ## Reading values -/

/-- A value as text; nothing for a value that does not count as present. -/
def textOf (v : Value) : String := if v.isTruthy then v.display else ""

/-- The entries of a value as texts. -/
def textsOf (v : Value) : List String := v.entries.map Datum.display

/-- A value as a whole number. -/
def wholeNumber : Value → Except Fault Int
  | .bool b => .ok (if b then 1 else 0)
  | .int n => .ok n
  | .float (.infinite _) => .error .overflow
  | .float (.finite negative m e) =>
      let n : Int := Binary64.wholePart m e
      .ok (if negative then -n else n)
  | .text s => .ok ((Numeral.read? s).getD 0)
  | _ => .ok 0

/-- The first entry of a value as a whole number, 0 without one. -/
def firstNumber (v : Value) : Except Fault Int :=
  match v.entries with
  | [] => .ok 0
  | first :: _ => wholeNumber first

/-- The dynamic ranges that are kept, with the names they are kept under. -/
def dynamicRanges : List (String × String) :=
  [("HDR10", "HDR10"), ("HDR10+", "HDR10+"), ("Dolby Vision", "DV"), ("HLG", "HLG"),
    ("SDR", "SDR")]

/-- The dynamic range that a value names, if it names one.  Lists and records cannot
be looked up. -/
def dynamicRange? : Value → Except Fault (Option String)
  | .list _ => .error .typeMismatch
  | .record _ => .error .typeMismatch
  | .text s => .ok (dynamicRanges.lookup s)
  | _ => .ok none

/-! ## Editions -/

/-- The report mentions an edition marker. -/
def mentionsEdition (report : Value) : Bool :=
  (report.field "other").entries.any (Datum.isText "Proper") ||
    (report.field "proper_count").isTruthy

/-- Whether a name is marked as corrected and as packed again, given its title. -/
def editionFlags (name title : String) (report : Value) : Bool × Bool :=
  if mentionsEdition report then
    let rest := (Text.withoutLeadingTitle name title).toList
    let proper := Edition.mentions .proper rest
    let repack := Edition.mentions .repack rest
    (proper || !repack, repack)
  else (false, false)

end Recognition

/-- The normalized release that a report on a name describes. -/
def Release.ofReport (name : String) (report : Value) (indexer : Indexer) (protocol : Protocol) :
    Except Fault Release := do
  let title := Recognition.textOf (report.field "title")
  let (proper, repack) := Recognition.editionFlags name title report
  let year ← Recognition.firstNumber (report.field "year")
  let season ← Recognition.firstNumber (report.field "season")
  let episode ← Recognition.firstNumber (report.field "episode")
  let ranges ← (report.field "other").entries.mapM Recognition.dynamicRange?
  let (year, month, day) : Int × Int × Int :=
    match report.field "date" with
    | .date d => (d.year, d.month, d.day)
    | _ => (year, 0, 0)
  let release : Release :=
    { torrentName := name
      title, year, month, day, season, episode, proper, repack, protocol, indexer
      subTitle := " ".intercalate (Recognition.textsOf (report.field "episode_title"))
      resolution := Recognition.textOf (report.field "screen_size")
      source := Recognition.textOf (report.field "source")
      codec := Recognition.textsOf (report.field "video_codec")
      container := Recognition.textOf (report.field "container")
      hdr := ranges.filterMap fun range => range
      audio := Recognition.textsOf (report.field "audio_codec")
      audioChannels := Recognition.textOf (report.field "audio_channels")
      group := Recognition.textOf (report.field "release_group")
      website := Recognition.textOf (report.field "streaming_service") }
  return release.normalize

end ReleaseHistory
