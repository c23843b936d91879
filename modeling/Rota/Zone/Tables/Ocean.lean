import Rota.Zone.Coded

/-!
Zones of the Atlantic, Indian and Pacific oceans, of Australia and of Antarctica.
The coding is explained beside `CodedZone`.
-/

namespace Rota.Zone.Tables

def ocean : List CodedZone := [
  ⟨"Antarctica/Casey",
    "-00:0 +08:28800 +11:39600",
    ["-irxc0Blag4o0C73bo0Buz1o0C5zqo0B2fobs0Cpz9g0Bat4c0C89u80Bacgc0C80no0Basw1oC89wycBag5poC8",
     "9wycBag5poC84lacB"],
    ""⟩,
  ⟨"Antarctica/Davis",
    "-00:0 +07:25200 +05:18000",
    ["-6rmdc0B42jdw0A27wgs0Bl8uss0C7ecw0Buo0g0C60cw0B"],
    ""⟩,
  ⟨"Antarctica/Macquarie",
    "-00:0 AEST:36000 AEDT:39600",
    ["-10mb9c0B8ts4g0C902o0B11wns0Af4kh40Ba6p8g0C9d1c0Basw00C6uao0Bbvs00C6uao0Bbvs00C779c0Bbvs",
     "00C64dc0Bclpc0C6hc00Bc8qo0C6hc00Bc8qo0C6hc00Bc8qo0C6uao0Bc8qo0C6hc00Bc8qo0C6hc00Bc8qo0C6",
     "hc00Bc8qo0C6hc00Bc8qo0C6hc00Bc8qo0C7x6o0Bb5uo0C7k800Bb5uo0C6hc00Bc8qo0C6hc00Bc8qo0C6hc00",
     "Bbvs00C7k800Bbitc0C7k800Bbitc0C779c0Bbitc0C779c0Bbitc0C7x6o0B9q000C902o0B9q000C902o0B9q0",
     "00C902o0B9q000C902o0B9q000C9d1c0B9q000C902o0B9q000C902o0B9q000C902o0B9q000C902o0B7x6o0Ca",
     "sw00Ba2yo0C902o0B9q000C902o0B9q000C902o0B9q000C902o0B9q000C9d1c0B9d1c0C902o0Ba2yo0C9d1c0",
     "B9d1c0C9d1c0B9d1c0C"],
    "2011 C 10.1.0/7200 B 4.1.0/10800"⟩,
  ⟨"Antarctica/Mawson",
    "-00:0 +06:21600 +05:18000",
    ["-8aelc0Bt22y80C"],
    ""⟩,
  ⟨"Antarctica/Palmer",
    "-00:0 -03:-10800 -04:-14400 -02:-7200",
    ["-2lxhc0B31ho0Cbqas0B71mk0Cbqas0B8ovw0C9d440B9px80C9d440B9cyk0C9d440B28t6k0D51ek0B46b6s0C",
     "8c2s0B7x3w0Casys0B7x3w0Cb5xg0B7k580Cb5xg0B7k580Cb5xg0B9cyk0C9d440B7x3w0Casys0B7x3w0Cb5xg",
     "0B7k580C9q2s0B8zzw0Cb5xg0B7x3w0Casys0B7x3w0Casys0B7x3w0Casys0B7x3w0Cb5xg0B7k580Cb5xg0B8n",
     "180Ca31g0B7x3w0Ca31g0B9px80C9q2s0B7x3w0Cb5xg0B7k580Cb5xg0B7k580Cb5xg0B7k580Cb5xg0B7x3w0C",
     "asys0B7x3w0Casys0B7x3w0Cb5xg0B7k580Cb5xg0B8n180Ca31g0B7x3w0Casys0B8zzw0C9q2s0Bast80C5eis",
     "0Bcyl80C6hes0Bc8nw0C6udg0Bbvp80C6udg0Bvonw0C4olg0B"],
    ""⟩,
  ⟨"Antarctica/Rothera",
    "-00:0 -03:-10800",
    ["3lxs00B"],
    ""⟩,
  ⟨"Antarctica/Troll",
    "-00:0 +00:0 +02:7200",
    ["ibruo0B27pg0Cb5uo0B"],
    "2006 C 3.5.0/3600 B 10.5.0/10800"⟩,
  ⟨"Antarctica/Vostok",
    "-00:0 +07:25200 +05:18000",
    ["-6aaao0Biushw0Ae23g0Bf79gs0C"],
    ""⟩,
  ⟨"Atlantic/Azores",
    "LMT:-6160 HMT:-6872 -02:-7200 -01:-3600 +00:-3600 +00:0 -01:0 WET:0",
    ["-18vsdwwBem17fsC2bual4D6zxg0C66580Dbq800C73k00Dbodc0C71pc0Dbq800C73k00Dbq800C71pc0Dbq800",
     "C1b2g00D9b6o0Csaio0D8n400C9q000D902o0Ca2yo0D902o0Ca2yo0D8n400Cst1c0D8n400C9d1c0D9d1c0Csg",
     "2o0D9d1c0C902o0D9q000Ca2yo0D8n400C9d1c0D9d1c0C902o0D9q000Ca2yo0Db5uo0C51hc0Dbitc0C9d1c0D",
     "9ew00C88ao0D25mg0E2s0F5r940G5k0D3lpg0C779c0D1sns0E2s0F6u540G5k0D38qs0C6uao0D25mg0E2s0F6h",
     "6g0G5k0D38qs0C6uao0D25mg0E2s0F6h6g0G5k0D38qs0C8a5c0D9d1c0C9d9o0D9d1c0C9d1c0D9d1c0C9d1c0D",
     "9d1c0C9d1c0D9d1c0C9d1c0D9q000C9d1c0D9d1c0C9d1c0D9d1c0C9d1c0D9d1c0C9d1c0D9d1c0C9d1c0D9q00",
     "0C9d1c0D9d1c0C9d1c0D9d1c0C9d1c0D9d1c0C9d1c0D9d1c0C9d1c0D9d1c0C9d1c0D9q000C9d1c0D9d1c0C9d",
     "1c0D9d1c0C9d1c0D9d1c0C9d1c0D5qbjo0F9d1c0D9q000F9d1c0D9d1c0F9d440D9cyk0F9d440D9d1c0F9d1c0",
     "D9d1c0F9d1c0D9d440F9cyk0D9d1c0F9q000D9d1c0F9d1c0D9d1c0F9d1c0D9d1c0F9d1c0D9d1c0F9d1c0D9d1",
     "c0F9d1c0D9d1c0F9q000D9d1c0F9d1c0D9d1c0F9cyk0H9d1c0F9d1c0D9d1c0F9d1c0D9d1c0F9d1c0D"],
    "1996 F 3.5.0/0 D 10.5.0/3600"⟩,
  ⟨"Atlantic/Bermuda",
    "LMT:-15558 BMT:-15558 BST:-11958 AST:-14400 ADT:-10800",
    ["-15r0xbuBe851c0C95jw0Ba16s0C7yyk0B5w74c0D69z5ruEeefw0D7x9g0Ebiqk0D6udg0Ec8nw0D6hes0Ec8nw",
     "0Dst440E64ak0Dcyqs0E5ed80Ddbpg0E5ed80Ddoo40E51ek0Ddoo40E51ek0Ddoo40E5ed80D1xuw40E7x3w0D9",
     "4r9g0E9cyk0D9d440E9cyk0D9d440E9px80D905g0E9px80D9d440E9cyk0D9d440E9cyk0D9d440E9cyk0D9d44",
     "0E9cyk0D9d440E9px80D905g0E9px80D9d440E9cyk0D9d440E9cyk0D9d440E9cyk0D8a840Eafuk0D8a840Eas",
     "t80D7x9g0East80D7x9g0East80D8a840Eafuk0D8a840Eafuk0D8a840East80D7x9g0East80D7x9g0East80D",
     "8a840Eafuk0D8a840Eafuk0D8a840Eafuk0D8a840East80D7x9g0East80D7x9g0East80D8a840Eafuk0D8a84",
     "0Eafuk0D8a840East80D7x9g0East80D7x9g0East80D"],
    "2007 E 3.2.0/7200 D 11.1.0/7200"⟩,
  ⟨"Atlantic/Canary",
    "LMT:-3696 -01:-3600 WET:0 WEST:3600",
    ["-oytbtcBctvupcChhq7s0D905g0C9d1c0D9d1c0C9d1c0D9d1c0C9d1c0D9d1c0C9d1c0D9q000C9d1c0D9d1c0C",
     "9d1c0D9d1c0C9d1c0D9d1c0C9d1c0D9d1c0C9d1c0D9d1c0C9d1c0D9q000C9d1c0D9d1c0C9d1c0D9d1c0C9d1c",
     "0D9d1c0C9d1c0D9d1c0C9d1c0D9d1c0C"],
    "1996 D 3.5.0/3600 C 10.5.0/7200"⟩,
  ⟨"Atlantic/Cape_Verde",
    "LMT:-5644 -02:-7200 -01:-3600",
    ["-u9r7f8Bg06gz8C1mn180Bfpqwc0C"],
    ""⟩,
  ⟨"Atlantic/Faroe",
    "LMT:-1624 WET:0 WEST:3600",
    ["-wcehewB127keuwC9d1c0B9d1c0C9d1c0B9d1c0C9d1c0B9d1c0C9q000B9d1c0C9d1c0B9d1c0C9d1c0B9d1c0C",
     "9d1c0B9d1c0C9d1c0B9d1c0C9d1c0B9d1c0C9q000B9d1c0C9d1c0B9d1c0C9d1c0B9d1c0C9d1c0B9d1c0C9d1c",
     "0B9d1c0C9d1c0B"],
    "1996 C 3.5.0/3600 B 10.5.0/7200"⟩,
  ⟨"Atlantic/Madeira",
    "LMT:-4056 FMT:-4056 -01:-3600 +00:0 +01:0 +01:3600 +00:3600 WET:0 WEST:3600",
    ["-18vsfjcBem1440C2bucrcD6zxg0C66580Dbq800C73k00Dbodc0C71pc0Dbq800C73k00Dbq800C71pc0Dbq800",
     "C1b2g00D9b6o0Csaio0D8n400C9q000D902o0Ca2yo0D902o0Ca2yo0D8n400Cst1c0D8n400C9d1c0D9d1c0Csg",
     "2o0D9d1c0C902o0D9q000Ca2yo0D8n400C9d1c0D9d1c0C902o0D9q000Ca2yo0Db5uo0C51hc0Dbitc0C9d1c0D",
     "9ew00C88ao0D25mg0E2s0F5r940G5k0D3lpg0C779c0D1sns0E2s0F6u540G5k0D38qs0C6uao0D25mg0E2s0F6h",
     "6g0G5k0D38qs0C6uao0D25mg0E2s0F6h6g0G5k0D38qs0C8a5c0D9d1c0C9d9o0D9d1c0C9d1c0D9d1c0C9d1c0D",
     "9d1c0C9d1c0D9d1c0C9d1c0D9q000C9d1c0D9d1c0C9d1c0D9d1c0C9d1c0D9d1c0C9d1c0D9d1c0C9d1c0D9q00",
     "0C9d1c0D9d1c0C9d1c0D9d1c0C9d1c0D9d1c0C9d1c0D9d1c0C9d1c0D9d1c0C9d1c0D9q000C9d1c0D9d1c0C9d",
     "1c0D9d1c0C9d1c0D9d1c0C9d1c0H5qbjo0I9d1c0H9q000I9d1c0H9d1c0I9d440H9cyk0I9d440H9d1c0I9d1c0",
     "H9d1c0I9d1c0H9d440I9cyk0H9d1c0I9q000H9d1c0I9d1c0H9d1c0I9d1c0H9d1c0I9d1c0H9d1c0I9d1c0H9d1",
     "c0I9d1c0H9d1c0I9q000H9d1c0I9d1c0H9d1c0I9d1c0H9d1c0I9d1c0H9d1c0I9d1c0H9d1c0I9d1c0H"],
    "1996 I 3.5.0/3600 H 10.5.0/7200"⟩,
  ⟨"Atlantic/South_Georgia",
    "LMT:-8768 -02:-7200",
    ["-15r12kgB"],
    ""⟩,
  ⟨"Atlantic/Stanley",
    "LMT:-13884 SMT:-13884 -04:-14400 -03:-10800 -02:-7200",
    ["-15r0ymcBbkx9c0CdbvxqcD8zzw0C9q2s0D8zzw0Ca31g0D8zzw0C9q2s0D8zzw0C9q2s0D8zzw0C9q2s0D4xp80",
     "Cl1pus0D7k580Eb5rw0D77c40Ebiqk0Did6s0C7kas0Db5rw0C7kas0Db5rw0C7kas0Db5rw0C7kas0Dbiqk0C77",
     "c40Dbiqk0C7kas0Db5rw0C7kas0Db5rw0C7kas0Db5rw0C7kas0Db5rw0C7kas0Dbiqk0C7kas0Db5rw0C7kas0D",
     "b5rw0C7kas0Db5rw0C7kas0Db5rw0C7kas0Db5xg0C77c40Dbvp80C6udg0Dbvp80C77c40Dbiqk0C77c40Dbiqk",
     "0C77c40Dbiqk0C77c40Dbiqk0C77c40Dbvp80C77c40Dbiqk0C77c40Dbiqk0C77c40D"],
    ""⟩,
  ⟨"Australia/Adelaide",
    "LMT:33260 ACST:32400 ACST:34200 ACDT:37800",
    ["-133j2zwB27qdzwC97zyu0D49pc0Ccxfk00D4h400C9d1c0D9d1c0C9q000D902o0Ceeio00D64dc0Cclpc0D6hc",
     "00Cc8qo0D6hc00Cc8qo0D6hc00Cc8qo0D6uao0Cc8qo0D6hc00Cc8qo0D6hc00Cc8qo0D6hc00Cc8qo0D6hc00Cc",
     "8qo0D6hc00Cc8qo0D6uao0Cc8qo0D6hc00Cc8qo0D6hc00Cc8qo0D6hc00Cc8qo0D779c0Cb5uo0D7k800Cbitc0",
     "D7k800Cbitc0D779c0Cbitc0D779c0Cbitc0D6hc00Cc8qo0D7k800Cb5uo0D6uao0Cc8qo0D779c0Cbitc0D7k8",
     "00Cb5uo0D7x6o0Casw00D7x6o0Casw00D7x6o0Casw00D7x6o0Cb5uo0D7k800Cb5uo0D7k800Cb5uo0D7x6o0Ca",
     "sw00D7x6o0Casw00D7x6o0Cb5uo0D7k800Cb5uo0D7x6o0Casw00D7k800Cb5uo0D"],
    "2008 D 10.1.0/7200 C 4.1.0/10800"⟩,
  ⟨"Australia/Brisbane",
    "LMT:36728 AEST:36000 AEDT:39600",
    ["-1354kc8Bbhbss8C49pc0Bcxfk00C4h400B9d1c0C9d1c0B9q000C902o0Beeio00C64dc0B97zuo0C6hc00Bc8q",
     "o0C6hc00Bc8qo0C6hc00B"],
    ""⟩,
  ⟨"Australia/Broken_Hill",
    "LMT:33948 AEST:36000 ACST:32400 ACST:34200 ACDT:37800",
    ["-133j3j0Bt9nr0C1egqs0D97zyu0E49pc0Dcxfk00E4h400D9d1c0E9d1c0D9q000E902o0Deeio00E64dc0Dclp",
     "c0E6hc00Dc8qo0E6hc00Dc8qo0E6hc00Dc8qo0E6uao0Dc8qo0E6hc00Dc8qo0E6hc00Dc8qo0E6hc00Dc8qo0E6",
     "hc00Dc8qo0E6hc00Dc8qo0E8a5c0Dasw00E6hc00Dc8qo0E6hc00Dc8qo0E6hc00Dc8qo0E779c0Db5uo0E7k800",
     "Dbitc0E7k800Dbitc0E779c0Dbitc0E6hc00Dc8qo0E6hc00Dc8qo0E6hc00Dc8qo0E6uao0Dc8qo0E6hc00Dc8q",
     "o0E6hc00Dc8qo0E7x6o0Dasw00E7x6o0Dasw00E7x6o0Dasw00E7x6o0Db5uo0E7k800Db5uo0E7k800Db5uo0E7",
     "x6o0Dasw00E7x6o0Dasw00E7x6o0Db5uo0E7k800Db5uo0E7x6o0Dasw00E7k800Db5uo0E"],
    "2008 E 10.1.0/7200 D 4.1.0/10800"⟩,
  ⟨"Australia/Darwin",
    "LMT:31400 ACST:32400 ACST:34200 ACDT:37800",
    ["-133j1k8B27qck8C97zyu0D49pc0Ccxfk00D4h400C9d1c0D9d1c0C9q000D902o0C"],
    ""⟩,
  ⟨"Australia/Eucla",
    "LMT:30928 +0845:31500 +0945:35100",
    ["-12nxx74Bb05944C49pc0Bcxfk00C4h400B9d1c0C9d1c0Bgheyo0C6hc00B4ir9c0C6hc00B40r400C5eg00B7p",
     "9hc0C5reo0Bb5uo0C7x6o0Basw00C7x6o0B"],
    ""⟩,
  ⟨"Australia/Hobart",
    "LMT:35356 AEST:36000 AEDT:39600",
    ["-12smja4Bb03ee4C902o0Bb5uo0C6hc00Bc8qo0C6hc00Bbx2ao0C4h400B9d1c0C9d1c0B9q000C902o0Bc9tk0",
     "0C9d1c0Basw00C6uao0Bbvs00C6uao0Bbvs00C779c0Bbvs00C64dc0Bclpc0C6hc00Bc8qo0C6hc00Bc8qo0C6h",
     "c00Bc8qo0C6uao0Bc8qo0C6hc00Bc8qo0C6hc00Bc8qo0C6hc00Bc8qo0C6hc00Bc8qo0C6hc00Bc8qo0C7x6o0B",
     "b5uo0C7k800Bb5uo0C6hc00Bc8qo0C6hc00Bc8qo0C6hc00Bbvs00C7k800Bbitc0C7k800Bbitc0C779c0Bbitc",
     "0C779c0Bbitc0C7x6o0B9q000C902o0B9q000C902o0B9q000C902o0B9q000C902o0B9q000C9d1c0B9q000C90",
     "2o0B9q000C902o0B9q000C902o0B9q000C902o0B7x6o0Casw00Ba2yo0C902o0B9q000C902o0B9q000C902o0B",
     "9q000C902o0B9q000C9d1c0B9d1c0C902o0Ba2yo0C"],
    "2008 C 10.1.0/7200 B 4.1.0/10800"⟩,
  ⟨"Australia/Lindeman",
    "LMT:35756 AEST:36000 AEDT:39600",
    ["-1354jl8Bbhbs18C49pc0Bcxfk00C4h400B9d1c0C9d1c0B9q000C902o0Beeio00C64dc0B97zuo0C6hc00Bc8q",
     "o0C6hc00Bc8qo0C6hc00Bc8qo0C6uao0Bc8qo0C6hc00B"],
    ""⟩,
  ⟨"Australia/Lord_Howe",
    "LMT:38180 AEST:36000 +1030:37800 +1130:41400 +11:39600",
    ["-133j6skB18x8f0kCc8uu0D6u7w0Cc8tg0D6h980Cc8tg0D6h980Cc8tg0D6h980Cc8tg0E777y0Cb5w20E7k6m0",
     "Cbiuq0E7k6m0Cbiuq0E777y0Cbiuq0E6ham0Cc8s20E6ham0Cc8s20E6ham0Cc8s20E6u9a0Cc8s20E6ham0Cc8s",
     "20E6ham0Cc8s20E7x5a0Casxe0E7x5a0Casxe0E7x5a0Casxe0E7x5a0Cb5w20E7k6m0C7x820Easum0Cb5w20E7",
     "x5a0Casxe0E7x5a0Casxe0E7x5a0Cb5w20E7k6m0Cb5w20E7x5a0Casxe0E7k6m0Cb5w20E"],
    "2008 E 10.1.0/7200 C 4.1.0/7200"⟩,
  ⟨"Australia/Melbourne",
    "LMT:34792 AEST:36000 AEDT:39600",
    ["-133j46gBbfqcmgC49pc0Bcxfk00C4h400B9d1c0C9d1c0B9q000C902o0Beeio00C64dc0Bclpc0C6hc00Bc8qo",
     "0C6hc00Bc8qo0C6hc00Bc8qo0C6uao0Bc8qo0C6hc00Bc8qo0C6hc00Bc8qo0C6hc00Bc8qo0C6hc00Bc8qo0C6h",
     "c00Bc8qo0C6uao0Bc8qo0C6hc00Bc8qo0C6hc00Bc8qo0C6hc00Bc8qo0C779c0Bb5uo0C7k800Bb5uo0C7x6o0B",
     "bitc0C779c0Bbitc0C779c0Bbitc0C6hc00Bc8qo0C6hc00Bc8qo0C6uao0Bc8qo0C6hc00Bc8qo0C7k800Bb5uo",
     "0C7x6o0Basw00C7x6o0Basw00C7x6o0Basw00C7x6o0Bb5uo0C7k800B7x6o0Casw00Bb5uo0C7x6o0Basw00C7x",
     "6o0Basw00C7x6o0Bb5uo0C7k800Bb5uo0C7x6o0Basw00C7k800Bb5uo0C"],
    "2008 C 10.1.0/7200 B 4.1.0/10800"⟩,
  ⟨"Australia/Perth",
    "LMT:27804 AWST:28800 AWDT:32400",
    ["-12nxuscBb058scC49pc0Bcxfk00C4h400B9d1c0C9d1c0Bgheyo0C6hc00B4ir9c0C6hc00B40r400C5eg00B7p",
     "9hc0C5reo0Bb5uo0C7x6o0Basw00C7x6o0B"],
    ""⟩,
  ⟨"Australia/Sydney",
    "LMT:36292 AEST:36000 AEDT:39600",
    ["-133j5c4Bbfqds4C49pc0Bcxfk00C4h400B9d1c0C9d1c0B9q000C902o0Beeio00C64dc0Bclpc0C6hc00Bc8qo",
     "0C6hc00Bc8qo0C6hc00Bc8qo0C6uao0Bc8qo0C6hc00Bc8qo0C6hc00Bc8qo0C6hc00Bc8qo0C6hc00Bc8qo0C6h",
     "c00Bc8qo0C8a5c0Basw00C6hc00Bc8qo0C6hc00Bc8qo0C6hc00Bc8qo0C779c0Bb5uo0C7k800Bbitc0C7k800B",
     "bitc0C779c0Bbitc0C6hc00Bc8qo0C6hc00Bc8qo0C6hc00Bc8qo0C6uao0Bc8qo0C6hc00Bc8qo0C6hc00Bc8qo",
     "0C7x6o0Basw00C7x6o0Basw00C7x6o0Basw00C7x6o0Bb5uo0C7k800B7x6o0Casw00Bb5uo0C7x6o0Basw00C7x",
     "6o0Basw00C7x6o0Bb5uo0C7k800Bb5uo0C7x6o0Basw00C7k800Bb5uo0C"],
    "2008 C 10.1.0/7200 B 4.1.0/10800"⟩,
  ⟨"Indian/Chagos",
    "LMT:17380 +05:18000 +06:21600",
    ["-wvpc2sB1ag64usC"],
    ""⟩,
  ⟨"Indian/Maldives",
    "LMT:17640 MMT:17640 +05:18000",
    ["-1ayyga0B15r19c0C"],
    ""⟩,
  ⟨"Indian/Mauritius",
    "LMT:13800 +04:14400 +05:18000",
    ["-wvp9bcB13jnu7cC8bx80Bdd0wc0C7x3w0B"],
    ""⟩,
  ⟨"Pacific/Apia",
    "LMT:45184 LMT:-41216 -1130:-41400 -11:-39600 -10:-36000 +14:50400 +13:46800",
    ["-14fxxj4B9nfeo0Ckcrmt4Dvp3la0E9odo0D902o0E4zbk0F4qog0G9d1c0F9q000G902o0F9q000G902o0F9q00",
     "0G902o0F9q000G902o0F9q000G902o0F9q000G9d1c0F9q000G902o0F9q000G902o0F9q000G"],
    ""⟩,
  ⟨"Pacific/Auckland",
    "LMT:41944 NZMT:41400 NZST:45000 NZST:43200 NZDT:46800",
    ["-1gsoz14Busn9z4C64ak0Bbiw40D7x5a0Basxe0D7x5a0Basxe0D7x5a0Basxe0D8a3y0Bafyq0D8a3y0Bafyq0D",
     "afvy0B7x820Dasum0B7x820Dasum0B7x820Dasum0B7x820Dasum0B7x820Db5ta0B7k9e0Db5ta0B7x820Dhsl2",
     "m0E5reo0Dclpc0E6uao0Dc8qo0E6hc00Dc8qo0E6hc00Dc8qo0E6hc00Dc8qo0E6hc00Dc8qo0E6hc00Dc8qo0E6",
     "uao0Dc8qo0E6hc00Dc8qo0E6hc00Dc8qo0E6hc00Dc8qo0E6hc00Dc8qo0E6hc00Dc8qo0E6uao0Dc8qo0E6hc00",
     "Db5uo0E8a5c0Dafxc0E8a5c0Dafxc0E8a5c0Dafxc0E8n400Da2yo0E8n400Da2yo0E8n400Da2yo0E8n400Dafx",
     "c0E8a5c0Dafxc0E8a5c0Dafxc0E8n400Da2yo0E8n400Da2yo0E8n400Dafxc0E8a5c0Dafxc0E8a5c0Dafxc0E8",
     "n400Da2yo0E8n400Da2yo0E8n400Da2yo0E8n400Da2yo0E"],
    "2008 E 9.5.0/7200 D 4.1.0/10800"⟩,
  ⟨"Pacific/Bougainville",
    "LMT:37336 PMMT:35312 +10:36000 +09:32400 +11:39600",
    ["-1ayyvh4B7tuc88Cosc24wD1n05g0C1071c40E"],
    ""⟩,
  ⟨"Pacific/Chatham",
    "LMT:44028 +1215:44100 +1245:45900 +1345:49500",
    ["-1gsp0n0B149qqm0Cf1tq90D5reo0Cclpc0D6uao0Cc8qo0D6hc00Cc8qo0D6hc00Cc8qo0D6hc00Cc8qo0D6hc0",
     "0Cc8qo0D6hc00Cc8qo0D6uao0Cc8qo0D6hc00Cc8qo0D6hc00Cc8qo0D6hc00Cc8qo0D6hc00Cc8qo0D6hc00Cc8",
     "qo0D6uao0Cc8qo0D6hc00Cb5uo0D8a5c0Cafxc0D8a5c0Cafxc0D8a5c0Cafxc0D8n400Ca2yo0D8n400Ca2yo0D",
     "8n400Ca2yo0D8n400Cafxc0D8a5c0Cafxc0D8a5c0Cafxc0D8n400Ca2yo0D8n400Ca2yo0D8n400Cafxc0D8a5c",
     "0Cafxc0D8a5c0Cafxc0D8n400Ca2yo0D8n400Ca2yo0D8n400Ca2yo0D8n400Ca2yo0D"],
    "2008 D 9.5.0/9900 C 4.1.0/13500"⟩,
  ⟨"Pacific/Easter",
    "LMT:-26248 EMT:-26248 -07:-25200 -06:-21600 -05:-18000",
    ["-15r0p2wBm9leo0CivmeuwD7k580Cc8tg0D6h980Ca31g0D7x3w0Casys0D7x3w0Cb5xg0D7k580Cag040D8a2k0",
     "Cb5xg0D7k580Cb5xg0D7x3w0Casys0D7x3w0Casys0D7x3w0Cb5xg0D7k580Cb5xg0D7k580Cb5xg0D7x3w0Casy",
     "s0D7x3w0Cjg0Dasfc0E7x3w0Dasys0E7x3w0Db5xg0E7k580Db5xg0E7k580Db5xg0E9cyk0D9d440E7x3w0Dasy",
     "s0E7x3w0Db5xg0E7k580D9q2s0E8zzw0Db5xg0E7x3w0Dasys0E7x3w0Dasys0E7x3w0Dasys0E7x3w0Db5xg0E7",
     "k580Db5xg0E8n180Da31g0E7x3w0Da31g0E9px80D9q2s0E7x3w0Db5xg0E7k580Db5xg0E7k580Db5xg0E7k580",
     "Db5xg0E7x3w0Dasys0E7x3w0Dasys0E7x3w0Db5xg0E7k580Db5xg0E8n180Da31g0E7x3w0Dasys0E8zzw0D9q2",
     "s0East80D5eis0Ecyl80D6hes0Ec8nw0D6udg0Ebvp80D6udg0Evonw0D4olg0Ee1h80D4olg0Ee1h80D4olg0Ec",
     "8nw0D7x9g0East80D7x9g0East80D7x9g0East80D8a840E"],
    "2023 E 9.1.6/79200 D 4.1.6/79200"⟩,
  ⟨"Pacific/Efate",
    "LMT:40396 +11:39600 +12:43200",
    ["-u964i4Bwbu364C51hc0B4y8qs0C9cyk0B9d440C9cyk0B9q2s0C8zzw0B9q2s0C9cyk0B9d440C9cyk0B9d440C",
     "9cyk0B9d440C9cyk0B9d440C9cyk0B9q2s0C64ak0Be1ms0C4ofw0B"],
    ""⟩,
  ⟨"Pacific/Fakaofo",
    "LMT:-41096 -11:-39600 +13:46800",
    ["-100dhmgB1lxe1igC"],
    ""⟩,
  ⟨"Pacific/Fiji",
    "LMT:42944 +12:43200 +13:46800",
    ["-sa2x4wB17bs00wC64dc0Bcyo00C5reo0B53a5c0C64dc0Basw00C6uao0Bbvs00C4oio0Be1k00C4oio0Beeio0",
     "C4bh80Berk40C3ylc0Berhc0C3ylc0Bf4g00C3lmo0Bf4g00C3lmo0Bf4g00C3lmo0Bfheo0C38o00Bhn6o0C1fu",
     "o0B"],
    ""⟩,
  ⟨"Pacific/Galapagos",
    "LMT:-21504 -05:-18000 -06:-21600",
    ["-kcr62oBspdryoC3lsas0B3jp80C"],
    ""⟩,
  ⟨"Pacific/Gambier",
    "LMT:-32388 -09:-32400",
    ["-tvndocB"],
    ""⟩,
  ⟨"Pacific/Guadalcanal",
    "LMT:38388 +11:39600",
    ["-tvowacB"],
    ""⟩,
  ⟨"Pacific/Guam",
    "LMT:-51660 LMT:34740 GST:36000 +09:32400 GDT:39600 ChST:36000",
    ["-1t8j1h0Bt83xc0Cld6pp0D1dl9g0C7s1k40Etxp80C3frms0EqdrpoC7kgacE3ljw0Cc8tg0E6u7w0Cbvus0E6u",
     "7w0C16uo40E3ljw0C16aas0E4ivxoCcls2cE6h980Cc65zw0F"],
    ""⟩,
  ⟨"Pacific/Honolulu",
    "LMT:-37886 HST:-37800 HDT:-34200 HWT:-34200 HPT:-34200 HST:-36000",
    ["-12lnw3mBjgnatmC13l00B4jvb00D1tyvu0E2e5e0Bvotg0F"],
    ""⟩,
  ⟨"Pacific/Kanton",
    "-00:0 -12:-43200 -11:-39600 +13:46800",
    ["-gvk800Blypqo0C7yiqk0D"],
    ""⟩,
  ⟨"Pacific/Kiritimati",
    "LMT:-37760 -1040:-38400 -10:-36000 +14:50400",
    ["-100dk74B153iz5sC7yirhcD"],
    ""⟩,
  ⟨"Pacific/Kosrae",
    "LMT:-47284 LMT:39116 +11:39600 +09:32400 +10:36000 +12:43200",
    ["-1t8j4ukBt83xc0C76a4ykD29hhk0C9cmd40E27sas0D29fk40Ccm2540Ff9l3w0C"],
    ""⟩,
  ⟨"Pacific/Kwajalein",
    "LMT:40160 +11:39600 +10:36000 +09:32400 -12:-43200 +12:43200",
    ["-100f8bkBise0fkC27sas0D1hjus0Bddxug0Ecgv6k0F"],
    ""⟩,
  ⟨"Pacific/Marquesas",
    "LMT:-33480 -0930:-34200",
    ["-tvncu0B"],
    ""⟩,
  ⟨"Pacific/Nauru",
    "LMT:40060 +1130:41400 +09:32400 +12:43200",
    ["-pjxiwsBba66ysC1kwca0Bhfzda0D"],
    ""⟩,
  ⟨"Pacific/Niue",
    "LMT:-40780 -1120:-40800 -11:-39600",
    ["-8zbv78B63yiokC"],
    ""⟩,
  ⟨"Pacific/Norfolk",
    "LMT:40312 +1112:40320 +1130:41400 +1230:45000 +11:39600 +12:43200",
    ["-100f8fsBq3einsCcfj8q0D6h980Cl6nms0E239aq0F"],
    "2020 F 10.1.0/7200 E 4.1.0/10800"⟩,
  ⟨"Pacific/Noumea",
    "LMT:39948 +11:39600 +12:43200",
    ["-u9645oBye0ixoC4dbw0Becqs0C4f6k0B99p700C4oio0B"],
    ""⟩,
  ⟨"Pacific/Pago_Pago",
    "LMT:45432 LMT:-40968 SST:-39600",
    ["-14fxxq0B9nfeo0C"],
    ""⟩,
  ⟨"Pacific/Palau",
    "LMT:-54124 LMT:32276 +09:32400",
    ["-1t8izkkBt83xc0C"],
    ""⟩,
  ⟨"Pacific/Pitcairn",
    "LMT:-31220 -0830:-30600 -08:-28800",
    ["-100dp8sB1esg26sC"],
    ""⟩,
  ⟨"Pacific/Port_Moresby",
    "LMT:35320 PMMT:35312 +10:36000",
    ["-1ayytx4B7tuao8C"],
    ""⟩,
  ⟨"Pacific/Rarotonga",
    "LMT:48056 LMT:-38344 -1030:-37800 -0930:-34200 -10:-36000",
    ["-10jifqwBrk6io0Cdlv68wD5rbw0Ec8s20D6ham0Ec8s20D6ham0Ec8s20D6u9a0Ec8s20D6ham0Ec8s20D6ham0",
     "Ec8s20D6ham0Ec8s20D6ham0Ec8s20D6ham0Ec8s20D6u9a0Ec8s20D6ham0Ec8s20D6ham0Ec8s20D6ham0E"],
    ""⟩,
  ⟨"Pacific/Tahiti",
    "LMT:-35896 -10:-36000",
    ["-tvnaywB"],
    ""⟩,
  ⟨"Pacific/Tarawa",
    "LMT:41524 +12:43200",
    ["-100f9dgB"],
    ""⟩,
  ⟨"Pacific/Tongatapu",
    "LMT:44352 +1220:44400 +13:46800 +14:50400",
    ["-corjk0B7znjyoCk8amdcD8fpc0Cbvs00D4bh80Ceelg0D4bh80C7pmis0D3lmo0C"],
    ""⟩]

end Rota.Zone.Tables
