/-
A loader image: the bytes of a loader, where in memory it goes, and how
large the pieces are that carry it there.

The size of an image is known to fit the request that announces it, and
its window to fit a frame; both are checked once, when it is made.
-/
import FlashLink.Files
import FlashLink.Window

namespace FlashLink

/-- A loader and where it runs. -/
structure LoaderImage where
  address : UInt32
  window : WindowSize
  data : Bytes
  length_lt : data.length < UInt32.size

namespace LoaderImage

/-- The image with some content. -/
def make (address window : UInt32) (content : Content) : Except ParamFailure LoaderImage :=
  match WindowSize.check window with
  | .error cause => .error cause
  | .ok window =>
    if h : content.toBytes.length < UInt32.size then
      .ok { address, window, data := content.toBytes, length_lt := h }
    else .error (.invalidSize s!"{content.size} bytes")

/-- The image in a file. A file whose size was found can be read as well,
as the files of the host go here, so only its size and the window are
to blame. -/
def ofFile (files : Files) (path : String) (address window : UInt32) :
    Except ParamFailure LoaderImage :=
  match files.image path with
  | .error cause => .error cause
  | .ok (_, content) => make address window content

/-- The size of an image, as a request announces it. -/
def size (image : LoaderImage) : UInt32 := UInt32.ofNat image.data.length

end LoaderImage

end FlashLink
