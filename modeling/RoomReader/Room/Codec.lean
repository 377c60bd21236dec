import RoomReader.Room.Basic

namespace RoomReader

/-!
# Rooms as JSON
-/

def RoomInfo.toJson (i : RoomInfo) : Json :=
  .obj [("room_id", .str i.roomId), ("name", .str i.name),
    ("canonical_alias", .ofOption .str i.canonicalAlias), ("topic", .ofOption .str i.topic),
    ("avatar_url", .ofOption .str i.avatarUrl), ("num_member_events", .ofNat i.numMemberEvents),
    ("num_members", .ofNat i.numMembers), ("num_servers", .ofNat i.numServers)]

def Member.toJson (m : Member) : Json :=
  .obj [("user_id", .str m.userId), ("membership", .str m.membership),
    ("display_name", .ofOption .str m.displayName), ("avatar_url", .ofOption .str m.avatarUrl),
    ("power_level", .ofInt64 m.powerLevel)]

def ServerUsers.toJson (u : ServerUsers) : Json :=
  .obj [("server_name", .str u.serverName), ("num_users", .ofNat u.numUsers)]

def ServerAliases.toJson (a : ServerAliases) : Json :=
  .obj [("server_name", .str a.serverName), ("aliases", .ofList .str a.aliases)]

/-- An object with one field for each key of a map. -/
def Json.ofMap {α : Type} (f : α → Json) (m : StringMap α) : Json :=
  .obj (m.toList.map fun e => (e.1, f e.2))

end RoomReader
