import DocAtlas.Braced.Adapter
import DocAtlas.Indented.Adapter

/-!
The adapters that are always available.
-/
namespace DocAtlas

def builtinAdapters : List Adapter := [.python, .javascript]

end DocAtlas
