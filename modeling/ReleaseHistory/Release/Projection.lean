/-
# ReleaseHistory.Release.Projection -- what of a release is compared

`Release.normalize` moves the edition markers that end the titles into flags and
brings the canonical title up to date.  `Release.projection` gives the fields
that duplicate detection looks at: texts in canonical form, lists as sets,
titles without edition markers, and the edition flags together with what the
markers announce.
-/
import ReleaseHistory.Release.Basic
import ReleaseHistory.Edition
import ReleaseHistory.Text.Canonical

namespace ReleaseHistory

set_option autoImplicit false

/-- The comparable fields of a release. -/
structure Projection where
  torrentName : String
  protocol : String
  title : String
  subTitle : String
  year : Int
  month : Int
  day : Int
  season : Int
  episode : Int
  source : String
  resolution : String
  codec : List String
  container : String
  hdr : List String
  audio : List String
  audioChannels : String
  group : String
  website : String
  proper : Bool
  repack : Bool
  deriving DecidableEq, Repr

namespace Release

/-- The title or the sub-title announces the edition. -/
def announces (r : Release) (e : Edition) : Bool :=
  e.announcedBy r.title || e.announcedBy r.subTitle

/-- The release with its edition markers moved from the titles into the flags. -/
def normalize (r : Release) : Release :=
  let title := Edition.titleText r.title
  { r with
    proper := r.proper || r.announces .proper
    repack := r.repack || r.announces .repack
    title := title
    subTitle := Edition.stripText r.subTitle
    normalizedTitle := Text.canonical title }

/-- The comparable fields of a release, edition markers taken out of the titles. -/
def projection (r : Release) : Projection where
  torrentName := r.torrentName
  protocol := r.protocol.name
  title := Text.canonical (Edition.titleText r.title)
  subTitle := Text.canonical (Edition.stripText r.subTitle)
  year := r.year
  month := r.month
  day := r.day
  season := r.season
  episode := r.episode
  source := Text.canonical r.source
  resolution := Text.canonical r.resolution
  codec := Text.canonicalSet r.codec
  container := Text.canonical r.container
  hdr := Text.canonicalSet r.hdr
  audio := Text.canonicalSet r.audio
  audioChannels := Text.canonical r.audioChannels
  group := Text.canonical r.group
  website := Text.canonical r.website
  proper := r.proper || r.announces .proper
  repack := r.repack || r.announces .repack

end Release

end ReleaseHistory
