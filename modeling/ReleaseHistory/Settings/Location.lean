/-
# ReleaseHistory.Settings.Location -- what a path means for the history kept under it

* Under the path `:memory:` a history lasts as long as one connection, so that the
  tables made for a command are gone when the command looks for them.
* The tables are made in the file that the path names when it is read as a
  template.  In a template a percent sign stands for itself only when doubled; a
  single one is refused.  With doubled ones the file of the tables is not the file
  of the path, which stays without tables.
-/
import ReleaseHistory.Fault

namespace ReleaseHistory.Location

set_option autoImplicit false

/-- The path of a history in memory. -/
def memoryPath : String := ":memory:"

/-- The template that a path is put into. -/
def template (path : String) : String := "sqlite:///" ++ path

/-- A text without its doubled percent signs. -/
def dropDoubled : List Char → List Char
  | '%' :: '%' :: r => dropDoubled r
  | c :: r => c :: dropDoubled r
  | [] => []

/-- What is wrong with the template of a path. -/
def templateFault? (path : String) : Option ValueFault :=
  ((dropDoubled (template path).toList).idxOf? '%').map (.percentSign (template path))

/-- The tables made for a history under this path are there when they are needed. -/
def keepsTables (path : String) : Bool := path != memoryPath && !path.toList.contains '%'

end ReleaseHistory.Location
