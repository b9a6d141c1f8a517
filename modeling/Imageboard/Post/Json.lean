import Imageboard.Json.Record
import Imageboard.Post.Basic

/-! Posts and threads as JSON. -/
namespace Imageboard
open Json

namespace Address

def toJson (a : Address) : Json := string a.text

def ofJson? (j : Json) : Option Address := j.asString?.bind read?

end Address

namespace Icon

def fieldNames : List String := ["uri", "title"]

def toJson (i : Icon) : Json := object [("uri", i.address.toJson), ("title", string i.title)]

def ofJson? (j : Json) : Option Icon := do
  let fields ← record? fieldNames j
  let address ← required fields "uri" Address.ofJson?
  let title ← required fields "title" asString?
  return { address, title }

end Icon

namespace Attachment

def fieldNames : List String :=
  ["file_uri", "thumbnail_uri", "original_name", "size", "width", "height", "spoiler"]

def toJson (a : Attachment) : Json :=
  object
    [("file_uri", ofOption Address.toJson a.file),
     ("thumbnail_uri", ofOption Address.toJson a.thumbnail),
     ("original_name", ofOption string a.uploadName),
     ("size", ofUInt64 a.size),
     ("width", ofUInt32 a.width),
     ("height", ofUInt32 a.height),
     ("spoiler", bool a.spoiler)]

def ofJson? (j : Json) : Option Attachment := do
  let fields ← record? fieldNames j
  let file ← nullable fields "file_uri" Address.ofJson?
  let thumbnail ← nullable fields "thumbnail_uri" Address.ofJson?
  let uploadName ← nullable fields "original_name" asString?
  let size ← required fields "size" asUInt64?
  let width ← required fields "width" asUInt32?
  let height ← required fields "height" asUInt32?
  let spoiler ← required fields "spoiler" asBool?
  return { file, thumbnail, uploadName, size, width, height, spoiler }

end Attachment

namespace Post

def fieldNames : List String :=
  ["post_number", "parent_post_number", "subject", "name", "tripcode", "capcode", "identifier",
   "email", "sage", "sticky", "cyclical", "comment", "timestamp", "icons", "attachments"]

def toJson (p : Post) : Json :=
  object
    [("post_number", ofOption string p.number),
     ("parent_post_number", ofOption string p.parentNumber),
     ("subject", ofOption string p.subject),
     ("name", ofOption string p.name),
     ("tripcode", ofOption string p.tripcode),
     ("capcode", ofOption string p.capcode),
     ("identifier", ofOption string p.identifier),
     ("email", ofOption string p.email),
     ("sage", bool p.sage),
     ("sticky", bool p.sticky),
     ("cyclical", bool p.cyclical),
     ("comment", ofOption string p.comment),
     ("timestamp", ofOption ofInt64 p.timestamp),
     ("icons", ofList Icon.toJson p.icons),
     ("attachments", ofList Attachment.toJson p.attachments)]

def ofJson? (j : Json) : Option Post := do
  let fields ← record? fieldNames j
  let number ← nullable fields "post_number" asString?
  let parentNumber ← nullable fields "parent_post_number" asString?
  let subject ← nullable fields "subject" asString?
  let name ← nullable fields "name" asString?
  let tripcode ← nullable fields "tripcode" asString?
  let capcode ← nullable fields "capcode" asString?
  let identifier ← nullable fields "identifier" asString?
  let email ← nullable fields "email" asString?
  let sage ← required fields "sage" asBool?
  let sticky ← required fields "sticky" asBool?
  let cyclical ← required fields "cyclical" asBool?
  let comment ← nullable fields "comment" asString?
  let timestamp ← nullable fields "timestamp" asInt64?
  let icons ← required fields "icons" (asListOf? Icon.ofJson?)
  let attachments ← required fields "attachments" (asListOf? Attachment.ofJson?)
  return {
    number, parentNumber, subject, name, tripcode, capcode, identifier, email, sage, sticky,
    cyclical, comment, timestamp, icons, attachments }

end Post

namespace Thread

def fieldNames : List String := ["posts", "posts_count", "posts_with_files_count"]

def toJson (t : Thread) : Json :=
  object
    [("posts", ofList Post.toJson t.posts),
     ("posts_count", ofUInt32 t.postsCount),
     ("posts_with_files_count", ofUInt32 t.filesCount)]

def ofJson? (j : Json) : Option Thread := do
  let fields ← record? fieldNames j
  let posts ← required fields "posts" (asListOf? Post.ofJson?)
  let postsCount ← required fields "posts_count" asUInt32?
  let filesCount ← required fields "posts_with_files_count" asUInt32?
  return { posts, postsCount, filesCount }

end Thread

end Imageboard
