/-
# ReleaseHistory.Search.SortKey -- the columns by which releases are sorted

A sort key names a column; two keys name the column of the release name.  Keys
are listed in alphabetical order.
-/

namespace ReleaseHistory

set_option autoImplicit false

/-- A column of the history that can be sorted by. -/
inductive SortColumn where
  | id
  | timestamp
  | title
  | torrentName
  | indexerIdentifier
  | filterName
  | season
  | episode
  | year
  | size
  | resolution
  | source
  | group
  | protocol
  deriving DecidableEq, Repr

namespace SortColumn

/-- The name of the column in a written clause. -/
def name : SortColumn → String
  | .id => "id"
  | .timestamp => "timestamp"
  | .title => "title"
  | .torrentName => "torrent_name"
  | .indexerIdentifier => "indexer_identifier"
  | .filterName => "filter_name"
  | .season => "season"
  | .episode => "episode"
  | .year => "year"
  | .size => "size"
  | .resolution => "resolution"
  | .source => "source"
  | .group => "release_group"
  | .protocol => "protocol"

/-- The sort keys with their columns, in alphabetical order. -/
def keys : List (String × SortColumn) :=
  [("episode", .episode), ("filter", .filterName), ("group", .group), ("id", .id),
    ("indexer", .indexerIdentifier), ("name", .torrentName), ("protocol", .protocol),
    ("resolution", .resolution), ("season", .season), ("size", .size), ("source", .source),
    ("timestamp", .timestamp), ("title", .title), ("torrent_name", .torrentName),
    ("year", .year)]

/-- The column that a key names. -/
def ofKey? (key : String) : Option SortColumn := keys.lookup key

end SortColumn

end ReleaseHistory
