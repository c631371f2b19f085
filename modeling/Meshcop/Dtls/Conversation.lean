/-
  Meshcop.Dtls.Conversation — the two drivers joined by a network that delivers everything.

  The drivers are functions of the events they meet, so a conversation is found by running
  both sides again and again, each time against everything the other side has sent so far.
  `Conversation.inputs n` is what the two sides have received after `n` such rounds.
-/

import Meshcop.Dtls.ClientDriver
import Meshcop.Dtls.ServerDriver

namespace Meshcop.Dtls

open Lib

/-- The two ends: what they share, their random sources and their addresses. -/
structure Conversation (C : Crypto) where
  pskc : Bytes
  clientRng : C.Rng
  serverRng : C.Rng
  clientAddr : SocketAddr
  serverAddr : SocketAddr

namespace Conversation

variable {C : Crypto} (talk : Conversation C)

/-- Sends never fail, so the transport has no errors. -/
def setup : ClientSetup Empty := { peer := talk.serverAddr, sendFails := fun _ => none }

/-- The client against the given events. -/
def client (inputs : List (Input Empty)) :
    Except Error (EStateM.Result (Halt Empty) (ClientState C) SessionState) := do
  let client ← ClientState.start talk.pskc talk.clientRng
  return connectInner talk.setup inputs client

/-- The server against the given events. -/
def server (inputs : List (Input Empty)) : AcceptRun C Empty :=
  acceptInner (fun _ => none) talk.pskc talk.serverRng inputs

/-- Datagrams the client has sent against the given events. -/
def clientSent (inputs : List (Input Empty)) : List Bytes :=
  match talk.client inputs with
  | .ok (.ok _ client) => client.sent
  | .ok (.error _ client) => client.sent
  | .error _ => []

/-- Datagrams the server has sent against the given events, in the cookie exchange or later. -/
def serverSent (inputs : List (Input Empty)) : List Bytes :=
  match talk.server inputs with
  | .committed _ (.ok _ server) => server.sent
  | .committed _ (.error _ server) => server.sent
  | .cookies _ =>
    after (awaitCookieHello C (fun _ => none) (DtlsCookieGenerator.new C talk.serverRng).1 inputs) []

/-- What the client and the server have received after the given number of rounds. -/
def inputs : Nat → List (Input Empty) × List (Input Empty)
  | 0 => ([], [])
  | rounds + 1 =>
    let (toClient, toServer) := inputs rounds
    ((talk.serverSent toServer).map (.datagram talk.clientAddr talk.serverAddr),
     (talk.clientSent toClient).map (.datagram talk.serverAddr talk.clientAddr))

end Conversation

/-- A conversation over the transparent primitives. -/
def Conversation.transparent : Conversation Crypto.transparent where
  pskc := []
  clientRng := ()
  serverRng := ()
  clientAddr := { ip := [1], port := 49152 }
  serverAddr := { ip := [2], port := 49191 }

end Meshcop.Dtls
