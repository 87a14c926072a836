/-
# ReleaseHistory.Profile.Dimension -- comparing two releases under a profile

Two releases match under a profile when they agree on every dimension that the
profile enables, or, if the profile compares names, when their release names are
equal.  The first match in a list of earlier releases is the duplicate.
-/
import ReleaseHistory.Profile.Basic
import ReleaseHistory.Release.Projection

namespace ReleaseHistory

set_option autoImplicit false

/-- A field on which two releases may agree or differ. -/
inductive Dimension where
  | title
  | subTitle
  | protocol
  | year
  | month
  | day
  | season
  | episode
  | source
  | resolution
  | codec
  | container
  | hdr
  | audio
  | group
  | website
  | proper
  | repack
  deriving DecidableEq, Repr

namespace Dimension

/-- All dimensions in the order of their comparison. -/
def all : List Dimension :=
  [.title, .subTitle, .protocol, .year, .month, .day, .season, .episode, .source, .resolution,
    .codec, .container, .hdr, .audio, .group, .website, .proper, .repack]

theorem mem_all (d : Dimension) : d ∈ all := by
  cases d <;> decide

def name : Dimension → String
  | .title => "title"
  | .subTitle => "sub_title"
  | .protocol => "protocol"
  | .year => "year"
  | .month => "month"
  | .day => "day"
  | .season => "season"
  | .episode => "episode"
  | .source => "source"
  | .resolution => "resolution"
  | .codec => "codec"
  | .container => "container"
  | .hdr => "hdr"
  | .audio => "audio"
  | .group => "group"
  | .website => "website"
  | .proper => "proper"
  | .repack => "repack"

/-- Two releases agree on the dimension. -/
def agrees (d : Dimension) (a b : Projection) : Bool :=
  match d with
  | .title => a.title == b.title
  | .subTitle => a.subTitle == b.subTitle
  | .protocol => a.protocol == b.protocol
  | .year => a.year == b.year
  | .month => a.month == b.month
  | .day => a.day == b.day
  | .season => a.season == b.season
  | .episode => a.episode == b.episode
  | .source => a.source == b.source
  | .resolution => a.resolution == b.resolution
  | .codec => a.codec == b.codec
  | .container => a.container == b.container
  | .hdr => a.hdr == b.hdr
  | .audio => a.audio == b.audio
  | .group => a.group == b.group
  | .website => a.website == b.website
  | .proper => a.proper == b.proper
  | .repack => a.repack == b.repack

end Dimension

namespace Switches

/-- The switch of a dimension. -/
def enables (s : Switches) : Dimension → Bool
  | .title => s.title
  | .subTitle => s.subTitle
  | .protocol => s.protocol
  | .year => s.year
  | .month => s.month
  | .day => s.day
  | .season => s.season
  | .episode => s.episode
  | .source => s.source
  | .resolution => s.resolution
  | .codec => s.codec
  | .container => s.container
  | .hdr => s.hdr
  | .audio => s.audio
  | .group => s.group
  | .website => s.website
  | .proper => s.proper
  | .repack => s.repack

/-- The enabled dimensions in the order of their comparison. -/
def dimensions (s : Switches) : List Dimension := Dimension.all.filter s.enables

/-- The candidate repeats the earlier release. -/
def sameRelease (s : Switches) (candidate prior : Projection) : Bool :=
  if s.comparesNames then candidate.torrentName == prior.torrentName
  else s.dimensions.all fun d => d.agrees candidate prior

/-- The id of the first earlier release that the candidate repeats. -/
def findDuplicate (s : Switches) (candidate : Projection) :
    List (Int × Projection) → Option Int
  | [] => none
  | (id, prior) :: priors =>
      if s.sameRelease candidate prior then some id else s.findDuplicate candidate priors

end Switches

end ReleaseHistory
