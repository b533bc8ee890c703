import Parley.Library.Database

/-!
# Sample dialogs

A gate guard, written as a script, and a merchant, saved as JSON.
-/

namespace Parley.Demo

/-- The lines of the guard's script. -/
def guardLines : List String := [
  "// Town gate guard. Try talking to him more than once.",
  "=> gate",
  "",
  "#gate",
  "COUNT>2 => #regular",
  "IF: has_pass=true => #let_in",
  "Guard: Halt! Who goes there?",
  "- It's me, <<player>>. => #friend",
  "- None of your business. => #rude",
  "",
  "#friend",
  "SET: met_guard = true",
  "Guard: Ah, <<player>>. You'll need a pass to enter <<town>>.",
  "DO: Math,gold = gold - 5",
  "Guard: That'll be five gold for the paperwork. You have <<gold>> left.",
  "IF FUNCTION: Compare,gold>10=true => #rich",
  "Guard: Come back with a pass.",
  "EXIT",
  "",
  "#rich",
  "Guard: Still plenty of coin, I see. Here, take a pass.",
  "SET: has_pass = true",
  "Guard: Talk to me again and I'll let you in.",
  "EXIT",
  "",
  "#rude",
  "Guard: Suit yourself. The gate stays shut.",
  "DO: DisableDialog",
  "EXIT",
  "",
  "#let_in",
  "Guard: Pass checks out. Welcome to <<town>>.",
  "EXIT",
  "",
  "#regular",
  "<<self>>: You again? Go on through."]

/-- The lines of the merchant's dialog. -/
def merchantLines : List String := [
  "\x7b",
  "  \"start\": \"greet\",",
  "  \"windowType\": \"shop\",",
  "  \"nodes\": [",
  "    \x7b",
  "      \"name\": \"greet\",",
  "      \"lines\": [",
  "        \x7b\"speaker\": \"Merchant\", \"text\": \"Care to buy a lantern, <<player>>?\"\x7d,",
  "        \x7b",
  "          \"query\": \x7b",
  "            \"text\": \"Buy a lantern for 3 gold?\",",
  "            \"description\": \"You have <<gold>> gold.\",",
  "            \"responses\": [",
  "              \x7b\"text\": \"Yes\", \"link\": \"buy\"\x7d,",
  "              \x7b\"text\": \"No\", \"link\": \"decline\"\x7d",
  "            ]",
  "          \x7d",
  "        \x7d",
  "      ]",
  "    \x7d,",
  "    \x7b",
  "      \"name\": \"buy\",",
  "      \"lines\": [",
  "        \x7b\"ifFunction\": \"Compare::gold>=3=true\"\x7d,",
  "        \x7b\"callFunction\": \"MathInt::gold -= 3\", \"speaker\": \"Merchant\", \"text\": \"A fine choice.\"\x7d,",
  "        \x7b\"setVar\": \x7b\"key\": \"has_lantern\", \"value\": \"true\"\x7d, \"exit\": true\x7d,",
  "        \x7b\"elseIf\": true\x7d,",
  "        \x7b\"speaker\": \"Merchant\", \"text\": \"You can't afford it.\"\x7d,",
  "        \x7b\"endIf\": true\x7d",
  "      ]",
  "    \x7d,",
  "    \x7b",
  "      \"name\": \"decline\",",
  "      \"lines\": [",
  "        \x7b\"speaker\": \"Merchant\", \"text\": \"Maybe next time.\"\x7d",
  "      ]",
  "    \x7d",
  "  ]",
  "\x7d"]

/-- The file with some lines. -/
def fileOf (lines : List String) : Entry :=
  .file (String.join (lines.map (· ++ "\n"))).toUTF8

/-- The data folder of the samples. -/
def samples : Entry :=
  .folder [("database".toList, .folder [("dialog".toList, .folder [
    ("guard.dlg".toList, fileOf guardLines), ("merchant.json".toList, fileOf merchantLines)])])]

end Parley.Demo
