/-!
# Values of settings

What a settings file or a variable of the environment may give for a setting.
-/
namespace Courier

/-- A value that is given for a setting. Files have signed integers only; characters occur only in the
environment. -/
inductive SettingValue
  | bool (b : Bool)
  | unsigned (n : Nat)
  | signed (i : Int)
  | float (f : Float)
  | char (c : Char)
  | text (s : String)
  | list (items : List SettingValue)
  /-- Values by name. Of several with one name the last counts. -/
  | table (entries : List (String × SettingValue))

namespace SettingValue

/-- The value of a name among entries; the last one counts. -/
def named (name : String) (entries : List (String × SettingValue)) : Option SettingValue :=
  (entries.reverse.find? (fun e => e.1 == name)).map Prod.snd

end SettingValue
end Courier
