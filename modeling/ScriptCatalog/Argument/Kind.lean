/-! The closed set of script argument types, each with the token that scripts declare it by and
the name that procedure parameters of that type are given. -/

namespace ScriptCatalog

inductive ArgKind where
  | image
  | drawable
  | layer
  | channel
  | vectors
  | display
  | color
  | toggle
  | value
  | string
  | text
  | adjustment
  | filename
  | dirname
  | font
  | palette
  | pattern
  | gradient
  | brush
  | option
  | enum
  deriving DecidableEq

namespace ArgKind

def all : List ArgKind := [
  image, drawable, layer, channel, vectors, display, color, toggle, value, string, text,
  adjustment, filename, dirname, font, palette, pattern, gradient, brush, option, enum]

theorem mem_all (kind : ArgKind) : kind ∈ all := by cases kind <;> decide

def paramName : ArgKind → String
  | image => "image"
  | drawable => "drawable"
  | layer => "layer"
  | channel => "channel"
  | vectors => "vectors"
  | display => "display"
  | color => "color"
  | toggle => "toggle"
  | value => "value"
  | string => "string"
  | text => "text"
  | adjustment => "adjustment"
  | filename => "filename"
  | dirname => "dirname"
  | font => "font"
  | palette => "palette"
  | pattern => "pattern"
  | gradient => "gradient"
  | brush => "brush"
  | option => "option"
  | enum => "enum"

def paramNick (kind : ArgKind) : String := kind.paramName.capitalize

def memberName (kind : ArgKind) : String := kind.paramName.map Char.toUpper

def token (kind : ArgKind) : String := "SF-" ++ kind.memberName

/-- Whether values of the type identify an image, an item or a display of the current session. -/
def isItem : ArgKind → Bool
  | image | drawable | layer | channel | vectors | display => true
  | _ => false

end ArgKind

/-- The forms that the value of an argument can take. -/
inductive PayloadKind where
  | itemId
  | color
  | toggle
  | rawText
  | text
  | adjustment
  | file
  | resource
  | brush
  | option
  | enum
  deriving DecidableEq

namespace PayloadKind

def name : PayloadKind → String
  | itemId => "ItemIdValue"
  | color => "ColorValue"
  | toggle => "ToggleValue"
  | rawText => "RawTextValue"
  | text => "TextValue"
  | adjustment => "AdjustmentValue"
  | file => "FileValue"
  | resource => "ResourceValue"
  | brush => "BrushValue"
  | option => "OptionValue"
  | enum => "EnumValue"

end PayloadKind

/-- Every argument type has values of one form. -/
def ArgKind.payloadKind : ArgKind → PayloadKind
  | image | drawable | layer | channel | vectors | display => .itemId
  | color => .color
  | toggle => .toggle
  | value => .rawText
  | string | text => .text
  | adjustment => .adjustment
  | filename | dirname => .file
  | font | palette | pattern | gradient => .resource
  | brush => .brush
  | option => .option
  | enum => .enum

theorem ArgKind.isItem_iff (kind : ArgKind) :
    kind.isItem = true ↔ kind.payloadKind = .itemId := by
  cases kind <;> decide

end ScriptCatalog
