/-
# The list of required images

A file of the source tree names, one on a line, the images that a target needs.  Blanks around a
name and slashes before it do not count, nor do lines without a name.
-/
import DeviceFleet.Path
import DeviceFleet.Text.Blank

namespace DeviceFleet.Manifest

open Text

/-- Where the list is, below the top of the source tree. -/
def location : String := "device/google/cuttlefish/required_images"

/-- The name on a line. -/
def entry (line : List Char) : List Char := (trim line).dropWhile (· == '/')

/-- The names in a list, in order. -/
def entries (content : String) : List String :=
  (((lines content.toList).map entry).filter (!·.isEmpty)).map String.ofList

/-- The paths of the images that a list names. -/
def imagePaths (content productOut : String) : List String :=
  (entries content).map (Path.join productOut)

end DeviceFleet.Manifest
