import Scribe.Text.Search
import Scribe.Text.Word

/-!
# Embedded players

A frame that shows a video, a picture or music of a known service is written as a preview image that
links to the service. The source of the frame tells the service and the work, wherever in the source
it names them. Any other frame stays HTML.
-/

namespace Scribe.Export

open Text

/-- A work that a frame shows. -/
inductive Embed where
  | youTube (key : List Char)
  | instagram (key : List Char)
  | vk (owner video : List Char)
  | yandexTrack (track album : List Char)
  | yandexAlbum (album : List Char)

namespace Embed

/-- What is left of a text behind its start. -/
def behind? (start : String) (cs : List Char) : Option (List Char) :=
  dropPattern? start.toList cs

/-- A run of one character or more that satisfy `p`, and what follows it. -/
def run? (p : Char → Bool) (cs : List Char) : Option (List Char × List Char) :=
  match cs.takeWhile p with
  | [] => none
  | run => some (run, cs.dropWhile p)

/-- The key of a work: dashes and characters of words. -/
def key? : List Char → Option (List Char × List Char) := run? fun c => c == '-' || isWordChar c

/-- A decimal number. -/
def number? : List Char → Option (List Char × List Char) := run? isAnyDigit

/-- A decimal number that may have a minus sign. -/
def signedNumber? : List Char → Option (List Char × List Char)
  | '-' :: cs => (number? cs).map fun (digits, rest) => ('-' :: digits, rest)
  | cs => number? cs

/-- A video, if its address starts here. -/
def youTubeAt? (cs : List Char) : Option Embed := do
  let rest ← behind? "www.youtube" cs
  let rest ← behind? ".com/embed/" ((behind? "-nocookie" rest).getD rest)
  return .youTube (← key? rest).1

/-- A picture, if its address starts here. -/
def instagramAt? (cs : List Char) : Option Embed := do
  let (key, rest) ← key? (← behind? "www.instagram.com/p/" cs)
  let _ ← behind? "/embed" rest
  return .instagram key

/-- A video with its owner, if its address starts here. -/
def vkAt? (cs : List Char) : Option Embed := do
  let (owner, rest) ← signedNumber? (← behind? "vk.com/video_ext.php?oid=" cs)
  let (video, rest) ← number? (← behind? "&id=" rest)
  let _ ← behind? "&hash=" rest
  return .vk owner video

/-- A piece of music, if its address starts here. -/
def yandexTrackAt? (cs : List Char) : Option Embed := do
  let (track, rest) ← number? (← behind? "https://music.yandex.ru/iframe/#track/" cs)
  return .yandexTrack track (← number? (← behind? "/" rest)).1

/-- An album, if its address starts here. -/
def yandexAlbumAt? (cs : List Char) : Option Embed := do
  return .yandexAlbum (← number? (← behind? "https://music.yandex.ru/iframe/#album/" cs)).1

/-- The first answer at a place of a text, from left to right. -/
def findAt? (f : List Char → Option Embed) : List Char → Option Embed
  | [] => f []
  | c :: cs => f (c :: cs) <|> findAt? f cs

/-- The work that the source of a frame names. -/
def ofSource? (source : String) : Option Embed :=
  [youTubeAt?, instagramAt?, vkAt?, yandexTrackAt?, yandexAlbumAt?].findSome? fun f =>
    findAt? f source.toList

/-- What a work is called, the address of its picture, and its own address. -/
def parts : Embed → String × String × String
  | .youTube key =>
    ("YouTube video", "https://img.youtube.com/vi/" ++ .ofList key ++ "/0.jpg",
      "https://www.youtube.com/watch?v=" ++ .ofList key)
  | .instagram key =>
    let page := "https://www.instagram.com/p/" ++ String.ofList key
    ("Instagram post", page ++ "/media/?size=m", page ++ "/embed/")
  | .vk owner video =>
    ("VK video", "https://st.vk.com/images/icons/video_empty_2x.png",
      "https://vk.com/video" ++ .ofList owner ++ "_" ++ .ofList video)
  | .yandexTrack track album =>
    ("Yandex.Music track", "https://music.yandex.ru/blocks/meta/i/og-image.png",
      "https://music.yandex.ru/album/" ++ .ofList album ++ "/track/" ++ .ofList track)
  | .yandexAlbum album =>
    ("Yandex.Music album", "https://music.yandex.ru/blocks/meta/i/og-image.png",
      "https://music.yandex.ru/album/" ++ .ofList album)

/-- The picture of a work as a link to it. -/
def markdown (e : Embed) : String :=
  let (name, picture, page) := e.parts
  "[!" ++ "[Embedded " ++ name ++ "](" ++ picture ++ ")](" ++ page ++ ")"

end Embed

end Scribe.Export
