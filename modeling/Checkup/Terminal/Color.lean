/-!
# Terminal colours

Escape sequences around a text.
-/

namespace Checkup.Terminal

def wrap (before after text : String) : String := before ++ text ++ after

def red (text : String) : String := wrap "\x1b[31m" "\x1b[39m" text

def yellow (text : String) : String := wrap "\x1b[33m" "\x1b[39m" text

def blue (text : String) : String := wrap "\x1b[34m" "\x1b[39m" text

def bold (text : String) : String := wrap "\x1b[1m" "\x1b[0m" text

/-- Applies a style only where colours are wanted. -/
def styled (color : Bool) (style : String → String) (text : String) : String :=
  if color then style text else text

def errorPrefix (color : Bool) : String := styled color (bold ∘ red) "error:"

def notePrefix (color : Bool) : String := styled color (bold ∘ yellow) "note:"

def infoPrefix (color : Bool) : String := styled color (bold ∘ blue) "info:"

end Checkup.Terminal
