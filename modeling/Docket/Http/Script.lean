import Docket.Http.Plan

/-!
# Scripted servers

A server that plays back answers. Every route has a list of them, which are
given one after another; the last one is given ever after. A route that the
script does not have fails.
-/

namespace Docket.Http

/-- The answers of one route, still to be given. -/
structure Scene where
  route : String
  replies : List (Reply Json)

/-- A scripted server. -/
abbrev Script :=
  List Scene

namespace Script

/-- The name of the route of a call. -/
def routeOf (c : Call) : String :=
  c.method.name ++ " " ++ c.path

/-- The answers that are left after one was given. -/
def rest : List (Reply Json) → List (Reply Json)
  | _ :: reply :: more => reply :: more
  | replies => replies

/-- The next answer of a route, and the script without it. -/
def next? (route : String) : Script → Option (Reply Json × Script)
  | [] => none
  | scene :: more =>
      if scene.route = route then
        scene.replies.head?.map fun reply =>
          (reply, { scene with replies := rest scene.replies } :: more)
      else (next? route more).map fun (reply, more) => (reply, scene :: more)

/-- Plays the script. -/
def serve : Server Script := fun script _now c =>
  match script.next? (routeOf c) with
  | some answered => answered
  | none => (⟨0, .error (.network (.reported ("no stub for " ++ routeOf c)))⟩, script)

end Script

end Docket.Http
