import FilterQuery.Config.FromJson
import FilterQuery.Config.FromYaml

/-!
  FilterQuery.Config.File

  Configuration files. The extension of the file name, in any letters, tells the format; it is
  judged after the file has been read.
-/

namespace FilterQuery
namespace Config

/-- The last part of a path. -/
def fileName (path : Text) : Text :=
  (path.reverse.takeWhile fun c => c != '/').reverse

/-- What follows the last point of a file name. A name that starts with its only point has no
    extension. -/
def fileExtension (path : Text) : Text :=
  let name := fileName path
  let ending := (name.reverse.takeWhile fun c => c != '.').reverse
  if name.length ≤ ending.length + 1 then [] else ending

/-- The content of a file as text, if it is text. -/
def textOfBytes? (bytes : ByteArray) : Option Text :=
  (String.fromUTF8? bytes).map String.toList

/-- The configuration in a file of a given path and content, of which the content is missing
    where the file could not be read as text. -/
def ofFile (path : Text) (content : Option Text) : Except ConfigError Config :=
  match content with
  | none => .error .unreadable
  | some t =>
    let ending := (fileExtension path).lowerAscii
    if ending = "json".toList then ofJson t
    else if ending = "yaml".toList || ending = "yml".toList then ofYaml t
    else .error (.unknownFormat ending)

end Config
end FilterQuery
