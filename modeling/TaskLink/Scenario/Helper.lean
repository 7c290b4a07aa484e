import TaskLink.Messaging.Network
import TaskLink.Messaging.Responder
import TaskLink.Scenario.Answer

/-!
# Helpers

While a client waits for a reply, a helper may serve the other side: it takes
one request after the other and gives each the next of its replies.
-/

namespace TaskLink

inductive HelperReply where
  | whole (payload : ByteArray)
  | frames (frames : List ByteArray)

/-- A server, the replies that it has yet to give, and what came of the earlier ones. -/
structure Helper where
  server : Responder
  keepsFrames : Bool
  replies : List HelperReply
  answers : List Answer := []

namespace Helper

def patience : Duration := .ofSecs 5

def take (helper : Helper) (network : Network) : Answer × Network :=
  if helper.keepsFrames then
    match helper.server.receiveFrames Network.fabric (some patience) network with
    | (taken, network) => (.ofLink (.orNothing .frames) taken, network)
  else
    match helper.server.receive Network.fabric (some patience) network with
    | (taken, network) => (.ofLink (.orNothing .bytes) taken, network)

def give (helper : Helper) (network : Network) : HelperReply → Except LinkError Unit × Network
  | .whole payload => helper.server.send Network.fabric payload network
  | .frames frames => helper.server.sendFrames Network.fabric frames network

/-- Take a request and give the reply; a reply that is refused is noted too. -/
def serveOne (helper : Helper) (reply : HelperReply) (network : Network) : Helper × Network :=
  match helper.take network with
  | (taken, network) =>
      match helper.give network reply with
      | (.ok (), network) => ({ helper with answers := helper.answers ++ [taken] }, network)
      | (.error error, network) =>
          ({ helper with answers := helper.answers ++ [taken, .linkFailure error] }, network)

def isPrompt (helper : Helper) (network : Network) : Bool :=
  match helper.server.lifecycle.socket with
  | none => true
  | some socket =>
      match network.isReady socket .readable with
      | .ok ready => ready
      | .error _ => true

def servePrompt (helper : Helper) : List HelperReply → Network → Helper × Network
  | [], network => ({ helper with replies := [] }, network)
  | reply :: rest, network =>
      if helper.isPrompt network then
        match helper.serveOne reply network with
        | (helper, network) => servePrompt helper rest network
      else ({ helper with replies := reply :: rest }, network)

def serveAll (helper : Helper) : List HelperReply → Network → Helper × Network
  | [], network => ({ helper with replies := [] }, network)
  | reply :: rest, network =>
      match helper.serveOne reply network with
      | (helper, network) => serveAll helper rest network

end Helper

end TaskLink
