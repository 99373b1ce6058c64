import Cutover.Service.Answer

/-!
# Scripts of a service

A script lists for each route the replies of the service, in the order they are given. The last one
is given again and again. A route without a script answers with an empty document, or an empty body
to what is sent to it.

* `Script.next`: the reply to a message, and the script that is left;
* `Script.revise`: the replies of some routes are replaced.
-/

namespace Cutover

/-- A line of a script: a reply, and how many microseconds it takes. -/
structure ScriptLine where
  outcome : Outcome
  delay : Int := 0

/-- The replies of each route. -/
structure Script where
  routes : List (String × List ScriptLine) := []

namespace Script

/-- An answer that holds a text. -/
def answering (text : String) : ScriptLine where
  outcome := .answered { body := text.toUTF8.toList }

/-- The reply to a message on a route without a script. -/
def fallback (m : Message) : ScriptLine :=
  if m.method = "POST" then answering ""
  else if m.route = Call.getSummary.message.route then answering "\x7b\"DatabaseType\":\"mysql\"\x7d"
  else answering "\x7b\x7d"

/-- **The reply to a message**, and the script that is left. -/
def next (s : Script) (m : Message) : ScriptLine × Script :=
  match s.routes.lookup m.route with
  | some (r :: next :: rest) => (r, { routes := put s.routes m.route (next :: rest) })
  | some [r] => (r, s)
  | _ => (fallback m, s)

/-- The replies of some routes are replaced. -/
def revise (s : Script) (routes : List (String × List ScriptLine)) : Script where
  routes := routes.foldl (fun known (route, replies) => put known route replies) s.routes

end Script

end Cutover
