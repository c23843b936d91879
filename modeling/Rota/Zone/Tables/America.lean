import Rota.Zone.Coded

/-!
Zones of the Americas.
The coding is explained beside `CodedZone`.
-/

namespace Rota.Zone.Tables

def america : List CodedZone := [
  ⟨"America/Adak",
    "LMT:44002 LMT:-42398 NST:-39600 NWT:-36000 NPT:-36000 BST:-39600 BDT:-36000 AHST:-36000 HST:-36000 HDT:-32400",
    ["-1hc7qjzBh4z1xpCln70qaD1tyug0E2e6s0Cb7yik0F12y080G9cyk0F9d440G9cyk0F9d440G9px80F9d440G9c",
     "yk0F9d440G9cyk0F3lpg0Gf4d80F64g40Gclmk0F9d440G9px80F905g0G9px80F9d440G9cyk0F9d440G9cyk0F",
     "9d440G9cyk0F9d440G9cyk0F9d440G9px80F905g0G9px80H1l940I7rs80J9cyk0I9d440J9cyk0I9d440J9cyk",
     "0I8a840Jafuk0I8a840Jast80I7x9g0Jast80I7x9g0Jast80I8a840Jafuk0I8a840Jafuk0I8a840Jast80I7x",
     "9g0Jast80I7x9g0Jast80I8a840Jafuk0I8a840Jafuk0I8a840Jafuk0I8a840Jast80I7x9g0Jast80I7x9g0J",
     "ast80I8a840Jafuk0I8a840Jafuk0I8a840Jast80I7x9g0Jast80I7x9g0Jast80I"],
    "2007 J 3.2.0/7200 I 11.1.0/7200"⟩,
  ⟨"America/Anchorage",
    "LMT:50424 LMT:-35976 AST:-36000 AWT:-32400 APT:-32400 AHST:-36000 AHDT:-32400 YST:-32400 AKST:-32400 AKDT:-28800",
    ["-1hc7qjzBh4ywzbCln72woD1tyx80E2e400Cb7yik0F12y080G9cyk0F9d440G9cyk0F9d440G9px80F9d440G9c",
     "yk0F9d440G9cyk0F3lpg0Gf4d80F64g40Gclmk0F9d440G9px80F905g0G9px80F9d440G9cyk0F9d440G9cyk0F",
     "9d440G9cyk0F9d440G9cyk0F9d440G9px80F905g0G9px80H1l940I7rs80J9cyk0I9d440J9cyk0I9d440J9cyk",
     "0I8a840Jafuk0I8a840Jast80I7x9g0Jast80I7x9g0Jast80I8a840Jafuk0I8a840Jafuk0I8a840Jast80I7x",
     "9g0Jast80I7x9g0Jast80I8a840Jafuk0I8a840Jafuk0I8a840Jafuk0I8a840Jast80I7x9g0Jast80I7x9g0J",
     "ast80I8a840Jafuk0I8a840Jafuk0I8a840Jast80I7x9g0Jast80I7x9g0Jast80I"],
    "2007 J 3.2.0/7200 I 11.1.0/7200"⟩,
  ⟨"America/Araguaina",
    "LMT:-11568 -03:-10800 -02:-7200",
    ["-t85j2oB99k8moC9a9c0B9io40C99980B8p65g0C6zuo0Bbs2o0C67zw0Bcjxg0C69uk0Bcjxg0C4ml80B5mf440",
     "C49mk0Bhaas0C316k0Bcls40C4ml80Bcls40C66580Bcls40C67zw0B981s40C6u7w0Bbiw40C5rbw0Bd0lg0C5e",
     "d80Bcyqs0C5ed80Bdbpg0C64ak0B2yl440C64ak0Bc8tg0C6u7w0Bbxpg0C7iak0Bbiw40C6u7w0Bbiw40C7k580",
     "Bbiw40C6u7w0Bc8tg0C6h980Bdbpg0C5ed80B51udg0C64ak0B"],
    ""⟩,
  ⟨"America/Argentina/Buenos_Aires",
    "LMT:-14028 CMT:-15408 -04:-14400 -03:-10800 -02:-7200",
    ["-138aaicBdb2bqcC5iv8k0D67zw0Ca4w40D73h80Ccls40D66580Ccls40D66580Ccls40D66580Ccls40D67zw0",
     "Ccls40D66580Ccls40D66580Ccls40D66580Ccls40D67zw0C6a040Dhy7w0C6a040Dxovw0C3uys0D18nbw0Cb0",
     "dg0D8ve2k0C3uys0D3yik0Cbqas0D71mk0Cbqas0D71mk0Cbqas0D8ovw0C9d440D9px80C9d440D9cyk0C9d440",
     "D28t6k0E51ek0D7m2qs0E4tzw0Dbiw40E776k0Dbvus0E6u7w0Dbvus0E6u7w0Dbvus0E776k0D7qcg40E3yik0D",
     "b5xg0E7k580D"],
    ""⟩,
  ⟨"America/Argentina/Catamarca",
    "LMT:-15788 CMT:-15408 -04:-14400 -03:-10800 -02:-7200",
    ["-138a95gBdb2adgC5iv8k0D67zw0Ca4w40D73h80Ccls40D66580Ccls40D66580Ccls40D66580Ccls40D67zw0",
     "Ccls40D66580Ccls40D66580Ccls40D66580Ccls40D67zw0C6a040Dhy7w0C6a040Dxovw0C3uys0D18nbw0Cb0",
     "dg0D8ve2k0C3uys0D3yik0Cbqas0D71mk0Cbqas0D71mk0Cbqas0D8ovw0C9d440D9px80C9d440D9cyk0C9d440",
     "D28t6k0E51ek0D7m2qs0E4tzw0Dbiw40E776k0Dbvus0E6u7w0Cbvxk0E6u540Dbvus0E776k0D5v42s0Cz9g0D1",
     "u93w0E3yik0D"],
    ""⟩,
  ⟨"America/Argentina/Cordoba",
    "LMT:-15408 CMT:-15408 -04:-14400 -03:-10800 -02:-7200",
    ["-138a9g0Bdb2ao0C5iv8k0D67zw0Ca4w40D73h80Ccls40D66580Ccls40D66580Ccls40D66580Ccls40D67zw0",
     "Ccls40D66580Ccls40D66580Ccls40D66580Ccls40D67zw0C6a040Dhy7w0C6a040Dxovw0C3uys0D18nbw0Cb0",
     "dg0D8ve2k0C3uys0D3yik0Cbqas0D71mk0Cbqas0D71mk0Cbqas0D8ovw0C9d440D9px80C9d440D9cyk0C9d440",
     "D28t6k0E51ek0D7m2qs0E4tzw0Dbiw40E776k0Dbvus0E6u7w0Cbvxk0E6u540Dbvus0E776k0D7qcg40E3yik0D",
     "b5xg0E7k580D"],
    ""⟩,
  ⟨"America/Argentina/Jujuy",
    "LMT:-15672 CMT:-15408 -04:-14400 -03:-10800 -02:-7200",
    ["-138a98oBdb2agoC5iv8k0D67zw0Ca4w40D73h80Ccls40D66580Ccls40D66580Ccls40D66580Ccls40D67zw0",
     "Ccls40D66580Ccls40D66580Ccls40D66580Ccls40D67zw0C6a040Dhy7w0C6a040Dxovw0C3uys0D18nbw0Cb0",
     "dg0D8ve2k0C3uys0D3yik0Cbqas0D71mk0Cbqas0D71mk0Cbqas0D8ovw0C9d440D9px80C9d440D9cyk0C9d440",
     "D28t6k0E51ek0D7m2qs0E4tzw0Dbiw40E776k0Cc8w80D776k0Cag040E7k2g0Dbvus0E776k0D7qcg40E3yik0D"],
    ""⟩,
  ⟨"America/Argentina/La_Rioja",
    "LMT:-16044 CMT:-15408 -04:-14400 -03:-10800 -02:-7200",
    ["-138a8ycBdb2a6cC5iv8k0D67zw0Ca4w40D73h80Ccls40D66580Ccls40D66580Ccls40D66580Ccls40D67zw0",
     "Ccls40D66580Ccls40D66580Ccls40D66580Ccls40D67zw0C6a040Dhy7w0C6a040Dxovw0C3uys0D18nbw0Cb0",
     "dg0D8ve2k0C3uys0D3yik0Cbqas0D71mk0Cbqas0D71mk0Cbqas0D8ovw0C9d440D9px80C9d440D9cyk0C9d440",
     "D28t6k0E51ek0D7m2qs0E4tzw0Dbiw40E776k0Dbvus0E6qik0C3g880D8jbw0E6u7w0Dbvus0E776k0D5v42s0C",
     "z9g0D1u93w0E3yik0D"],
    ""⟩,
  ⟨"America/Argentina/Mendoza",
    "LMT:-16516 CMT:-15408 -04:-14400 -03:-10800 -02:-7200",
    ["-138a8l8Bdb29t8C5iv8k0D67zw0Ca4w40D73h80Ccls40D66580Ccls40D66580Ccls40D66580Ccls40D67zw0",
     "Ccls40D66580Ccls40D66580Ccls40D66580Ccls40D67zw0C6a040Dhy7w0C6a040Dxovw0C3uys0D18nbw0Cb0",
     "dg0D8ve2k0C3uys0D3yik0Cbqas0D71mk0Cbqas0D71mk0Cbqas0D8ovw0C9d440D9px80C9d440D9cyk0C9d440",
     "D28t6k0E51ek0D7m2qs0E4tzw0Dbiw40E776k0Cbktk0D71mk0Cbqas0D73h80Cbvus0E773s0D5unes0C6hes0D",
     "1p7mk0E3yik0D"],
    ""⟩,
  ⟨"America/Argentina/Rio_Gallegos",
    "LMT:-16612 CMT:-15408 -04:-14400 -03:-10800 -02:-7200",
    ["-138a8ikBdb29qkC5iv8k0D67zw0Ca4w40D73h80Ccls40D66580Ccls40D66580Ccls40D66580Ccls40D67zw0",
     "Ccls40D66580Ccls40D66580Ccls40D66580Ccls40D67zw0C6a040Dhy7w0C6a040Dxovw0C3uys0D18nbw0Cb0",
     "dg0D8ve2k0C3uys0D3yik0Cbqas0D71mk0Cbqas0D71mk0Cbqas0D8ovw0C9d440D9px80C9d440D9cyk0C9d440",
     "D28t6k0E51ek0D7m2qs0E4tzw0Dbiw40E776k0Dbvus0E6u7w0Dbvus0E6u7w0Dbvus0E776k0D5v42s0Cz9g0D1",
     "u93w0E3yik0D"],
    ""⟩,
  ⟨"America/Argentina/Salta",
    "LMT:-15700 CMT:-15408 -04:-14400 -03:-10800 -02:-7200",
    ["-138a97wBdb2afwC5iv8k0D67zw0Ca4w40D73h80Ccls40D66580Ccls40D66580Ccls40D66580Ccls40D67zw0",
     "Ccls40D66580Ccls40D66580Ccls40D66580Ccls40D67zw0C6a040Dhy7w0C6a040Dxovw0C3uys0D18nbw0Cb0",
     "dg0D8ve2k0C3uys0D3yik0Cbqas0D71mk0Cbqas0D71mk0Cbqas0D8ovw0C9d440D9px80C9d440D9cyk0C9d440",
     "D28t6k0E51ek0D7m2qs0E4tzw0Dbiw40E776k0Dbvus0E6u7w0Cbvxk0E6u540Dbvus0E776k0D7qcg40E3yik0D"],
    ""⟩,
  ⟨"America/Argentina/San_Juan",
    "LMT:-16444 CMT:-15408 -04:-14400 -03:-10800 -02:-7200",
    ["-138a8n8Bdb29v8C5iv8k0D67zw0Ca4w40D73h80Ccls40D66580Ccls40D66580Ccls40D66580Ccls40D67zw0",
     "Ccls40D66580Ccls40D66580Ccls40D66580Ccls40D67zw0C6a040Dhy7w0C6a040Dxovw0C3uys0D18nbw0Cb0",
     "dg0D8ve2k0C3uys0D3yik0Cbqas0D71mk0Cbqas0D71mk0Cbqas0D8ovw0C9d440D9px80C9d440D9cyk0C9d440",
     "D28t6k0E51ek0D7m2qs0E4tzw0Dbiw40E776k0Dbvus0E6qik0C3g880D8jbw0E6u7w0Dbvus0E776k0D5v2840C",
     "2txg0D1sgak0E3yik0D"],
    ""⟩,
  ⟨"America/Argentina/San_Luis",
    "LMT:-15924 CMT:-15408 -04:-14400 -03:-10800 -02:-7200",
    ["-138a91oBdb2a9oC5iv8k0D67zw0Ca4w40D73h80Ccls40D66580Ccls40D66580Ccls40D66580Ccls40D67zw0",
     "Ccls40D66580Ccls40D66580Ccls40D66580Ccls40D67zw0C6a040Dhy7w0C6a040Dxovw0C3uys0D18nbw0Cb0",
     "dg0D8ve2k0C3uys0D3yik0Cbqas0D71mk0Cbqas0D71mk0Cbqas0D8ovw0C9d440D9px80C9d440D9cyk0C9d440",
     "D28t6k0E51ek0D7m2qs0E4tzw0Dbiw40E7pp80Cb2aw0D71mk0C4qg40D6s8ik0C2txg0D1sgak0E14nw0D2gys0",
     "Cb5xg0D7k580Cb5xg0D"],
    ""⟩,
  ⟨"America/Argentina/Tucuman",
    "LMT:-15652 CMT:-15408 -04:-14400 -03:-10800 -02:-7200",
    ["-138a998Bdb2ah8C5iv8k0D67zw0Ca4w40D73h80Ccls40D66580Ccls40D66580Ccls40D66580Ccls40D67zw0",
     "Ccls40D66580Ccls40D66580Ccls40D66580Ccls40D67zw0C6a040Dhy7w0C6a040Dxovw0C3uys0D18nbw0Cb0",
     "dg0D8ve2k0C3uys0D3yik0Cbqas0D71mk0Cbqas0D71mk0Cbqas0D8ovw0C9d440D9px80C9d440D9cyk0C9d440",
     "D28t6k0E51ek0D7m2qs0E4tzw0Dbiw40E776k0Dbvus0E6u7w0Cbvxk0E6u540Dbvus0E776k0D5v42s0Cmas0D1",
     "um2k0E3yik0Db5xg0E7k580D"],
    ""⟩,
  ⟨"America/Argentina/Ushuaia",
    "LMT:-16392 CMT:-15408 -04:-14400 -03:-10800 -02:-7200",
    ["-138a8ooBdb29woC5iv8k0D67zw0Ca4w40D73h80Ccls40D66580Ccls40D66580Ccls40D66580Ccls40D67zw0",
     "Ccls40D66580Ccls40D66580Ccls40D66580Ccls40D67zw0C6a040Dhy7w0C6a040Dxovw0C3uys0D18nbw0Cb0",
     "dg0D8ve2k0C3uys0D3yik0Cbqas0D71mk0Cbqas0D71mk0Cbqas0D8ovw0C9d440D9px80C9d440D9cyk0C9d440",
     "D28t6k0E51ek0D7m2qs0E4tzw0Dbiw40E776k0Dbvus0E6u7w0Dbvus0E6u7w0Dbvus0E776k0D5v0dg0C12ys0D",
     "1u93w0E3yik0D"],
    ""⟩,
  ⟨"America/Asuncion",
    "LMT:-13840 AMT:-13840 -04:-14400 -03:-10800",
    ["-15r0ynkBlsruo0CldwofkDs4vw0Cs6w40D7tek0Cb0dg0D7rjw0Cb0dg0D7rjw0Cb0dg0D9cyk0C9eys0D9et80",
     "C9eys0D9cyk0C9eys0D9cyk0C9eys0D9cyk0C9eys0D9et80C9eys0D9cyk0C9eys0D9cyk0C9eys0D9cyk0C9ey",
     "s0D9et80C9eys0D9cyk0Cahus0D8a2k0C9eys0D9cyk0C9o840D7k580Cb7s40D93p80C9gtg0D7nuk0Cb42s0D7",
     "lzw0Cb5xg0D7tek0Cb9ms0D776k0Cbiw40D7k580Cb5xg0D7x3w0Casys0D7x3w0Casys0D7x3w0Cb5xg0D9cyk0",
     "C7kas0Db5rw0C7x9g0Dast80Ca31g0D7k580Cb5xg0D7k580Cb5xg0D7k580Cbiw40D776k0Cbiw40D776k0Cbiw",
     "40D8zzw0C905g0D9px80C905g0D9px80C9d440D"],
    "2013 D 10.1.0/0 C 3.4.0/0"⟩,
  ⟨"America/Bahia",
    "LMT:-9244 -03:-10800 -02:-7200",
    ["-t85kv8B99kaf8C9a9c0B9io40C99980B8p65g0C6zuo0Bbs2o0C67zw0Bcjxg0C69uk0Bcjxg0C4ml80B5mf440",
     "C49mk0Bhaas0C316k0Bcls40C4ml80Bcls40C66580Bcls40C67zw0B981s40C6u7w0Bbiw40C5rbw0Bd0lg0C5e",
     "d80Bcyqs0C5ed80Bdbpg0C64ak0Bcyqs0C64ak0Bcls40C5rbw0Bdbpg0C51ek0Bdbpg0C6h980Bc8tg0C6h980B",
     "c8tg0C64ak0Bc8tg0C6u7w0Bbxpg0C7iak0Bbiw40C6u7w0Bbiw40C7k580Bbiw40C6u7w0Bc8tg0C6h980Bdbpg",
     "0C5ed80B4irc40C6u7w0B"],
    ""⟩,
  ⟨"America/Bahia_Banderas",
    "LMT:-25260 MST:-25200 CST:-21600 MDT:-21600 PST:-28800 CDT:-18000",
    ["-p1tl2cB2u70ecC1sgdc0B8n400D7thc0B9eys0C591h80B3ie2s0Eaxvpg0Bdpgw40Dafuk0B8a840Dafuk0B8a",
     "840Dafuk0B8a840Dast80B7x9g0Dast80B9q2s0D7k580B9q2s0Dafuk0B8a840Dafuk0B8a840Dast80B7x9g0D",
     "ast80B7x9g0Dast80B7x9g0Dast80B8a840Dafuk0B8a840Dafuk0B8a840Fasqg0C7x9g0Fast80C7x9g0Fast8",
     "0C8a840Fafuk0C8a840Fafuk0C8a840Fafuk0C8a840Fast80C7x9g0Fast80C7x9g0Fast80C8a840Fafuk0C8a",
     "840Fafuk0C8a840Fast80C7x9g0Fast80C"],
    ""⟩,
  ⟨"America/Barbados",
    "LMT:-14309 AST:-14400 ADT:-10800 -0330:-12600",
    ["-ug8iajBfzq06jC6w840Bcjrw0C6hes0Bb7mk0D7ves0Bh3dpc0C5rbw0Ba31g0C8n180Ba31g0C8n180Bag040C",
     "84ik0B"],
    ""⟩,
  ⟨"America/Belem",
    "LMT:-11636 -03:-10800 -02:-7200",
    ["-t85j0sB99k8ksC9a9c0B9io40C99980B8p65g0C6zuo0Bbs2o0C67zw0Bcjxg0C69uk0Bcjxg0C4ml80B5mf440",
     "C49mk0Bhaas0C316k0Bcls40C4ml80Bcls40C66580Bcls40C67zw0B981s40C6u7w0Bbiw40C5rbw0Bd0lg0C5e",
     "d80B"],
    ""⟩,
  ⟨"America/Belize",
    "LMT:-21168 CST:-21600 -0530:-19800 CWT:-18000 CPT:-18000 CDT:-18000",
    ["-u52ic0B3edkc0C6ham0Bc8s20C6u9a0Bbvte0C6u9a0Bbvte0C6u9a0Bc8s20C6ham0Bc8s20C6ham0Bc8s20C6",
     "u9a0Bbvte0C6u9a0Bbvte0C6u9a0Bbvte0C6u9a0Bc8s20C6ham0Bc8s20C6ham0Bc8s20C6u9a0Bbvte0C6u9a0",
     "Bbvte0C6u9a0Bc8s20C6ham0Bc8s20C6ham0Bc8s20C6ham0Bc8s20C6u9a0Bbvte0C6u9a0Bbvte0C6u9a0Bc8s",
     "20C6ham0Bc8s20C6ham0Bc8s20C6u9a0B6uc20D1mtz80E6c8o0Bxulg0C6u9a0Bbvte0C6u9a0Bbvte0C6u9a0B",
     "c8s20C6ham0Bc8s20C6ham0Bc8s20C6u9a0Bbvte0C6u9a0Bbvte0C6u9a0Bbvte0C6u9a0Bc8s20C6ham0Bc8s2",
     "0C6ham0Bc8s20C6u9a0Bbvte0C6u9a0Bbvte0C6u9a0Bc8s20C6ham0Bc8s20C6ham0Bc8s20C6ham0Bc8s20C6u",
     "9a0Bbvte0C6u9a0Bbvte0C6u9a0Bc8s20C6ham0B319de0F3e580B4mcys0F2vmk0B"],
    ""⟩,
  ⟨"America/Boa_Vista",
    "LMT:-14560 -04:-14400 -03:-10800",
    ["-t85grkB99k93kC9a9c0B9io40C99980B8p65g0C6zuo0Bbs2o0C67zw0Bcjxg0C69uk0Bcjxg0C4ml80B5mf440",
     "C49mk0Bhaas0C316k0Bcls40C4ml80Bcls40C66580Bcls40C67zw0B981s40C6u7w0Bbiw40C5rbw0Bd0lg0C5e",
     "d80B62xk40C7k580Bbiw40Ccvw0B"],
    ""⟩,
  ⟨"America/Bogota",
    "LMT:-17776 BMT:-17776 -05:-18000 -04:-14400",
    ["-18s2sy8Bg0p400C14f1hi8Deefw0C"],
    ""⟩,
  ⟨"America/Boise",
    "LMT:-27889 PST:-28800 PDT:-25200 MST:-25200 MWT:-21600 MPT:-21600 MDT:-21600",
    ["-18xzuxbBhxl81bCast80B7x9g0Cast80B1um840D9s7jw0E1tz5k0F2dvo0Db9gdg0G9cyk0D9d440G9cyk0D9d",
     "440G9cyk0D9d440G9cyk0D9d440G9px80D9d440G9cyk0D9d440G9cyk0D51k40Gdoik0D64g40Gclmk0D9d440G",
     "9px80D905g0G9px80D9d440G9cyk0D9d440G9cyk0D9d440G9cyk0D9d440G9cyk0D9d440G9px80D905g0G9px8",
     "0D9d440G9cyk0D9d440G9cyk0D9d440G9cyk0D8a840Gafuk0D8a840Gast80D7x9g0Gast80D7x9g0Gast80D8a",
     "840Gafuk0D8a840Gafuk0D8a840Gast80D7x9g0Gast80D7x9g0Gast80D8a840Gafuk0D8a840Gafuk0D8a840G",
     "afuk0D8a840Gast80D7x9g0Gast80D7x9g0Gast80D8a840Gafuk0D8a840Gafuk0D8a840Gast80D7x9g0Gast8",
     "0D7x9g0Gast80D"],
    "2007 G 3.2.0/7200 D 11.1.0/7200"⟩,
  ⟨"America/Cambridge_Bay",
    "-00:0 MST:-25200 MWT:-21600 MPT:-21600 MDT:-21600 CST:-21600 CDT:-18000 EST:-18000",
    ["-q3gdc0Bbjeec0C1tz5k0D2dvo0Bdvfpg0E9cyk0B9d440E9cyk0B9d440E9cyk0B9d440E9cyk0B9d440E9px80",
     "B905g0E9px80B9d440E9cyk0B9d440E9cyk0B9d440E9cyk0B9d440E9cyk0B9d440E9px80B905g0E9px80B9d4",
     "40E9cyk0B9d440E9cyk0B9d440E9cyk0B8a840Eafuk0B8a840East80B7x9g0East80B7x9g0East80B8a840Ea",
     "fuk0B8a840Eafuk0B8a840East80B7x9g0East80B7x9g0East80B8a840Eafuk0B8a840Eafuk0B8a840Eafuk0",
     "B8a840East80F7x6o0Gast80Hct40F7kj40East80B8a840Eafuk0B8a840Eafuk0B8a840East80B7x9g0East8",
     "0B7x9g0East80B"],
    "2007 E 3.2.0/7200 B 11.1.0/7200"⟩,
  ⟨"America/Campo_Grande",
    "LMT:-13108 -04:-14400 -03:-10800",
    ["-t85hvwB99ka7wC9a9c0B9io40C99980B8p65g0C6zuo0Bbs2o0C67zw0Bcjxg0C69uk0Bcjxg0C4ml80B5mf440",
     "C49mk0Bhaas0C316k0Bcls40C4ml80Bcls40C66580Bcls40C67zw0B981s40C6u7w0Bbiw40C5rbw0Bd0lg0C5e",
     "d80Bcyqs0C5ed80Bdbpg0C64ak0Bcyqs0C64ak0Bcls40C5rbw0Bdbpg0C51ek0Bdbpg0C6h980Bc8tg0C6h980B",
     "c8tg0C64ak0Bc8tg0C6u7w0Bbxpg0C7iak0Bbiw40C6u7w0Bbiw40C7k580Bbiw40C6u7w0Bc8tg0C6h980Bdbpg",
     "0C5ed80Bcls40C64ak0Bdfes0C5nmk0Bc8tg0C6h980Bdbpg0C5rbw0Bbvus0C6h980Bcls40C64ak0Bcls40C6h",
     "980Bc8tg0C6h980Bc8tg0C6u7w0Bc8tg0C64ak0Bcls40C64ak0Bcls40C6h980Bc8tg0C6h980Bc8tg0C6h980B",
     "c8tg0C6h980Bdbpg0C5ed80B"],
    ""⟩,
  ⟨"America/Cancun",
    "LMT:-20824 CST:-21600 EST:-18000 EDT:-14400 CDT:-18000",
    ["-p1tr9kBvau7xkC7ggw40Dafuk0C8a840Dafuk0C8a840D64ak0E4bms0B8a840East80B7x9g0East80B9q2s0E",
     "7k580B9q2s0Eafuk0B8a840Eafuk0B8a840East80B7x9g0East80B7x9g0East80B7x9g0East80B8a840Eafuk",
     "0B8a840Eafuk0B8a840East80B7x9g0East80B7x9g0East80B8a840Eafuk0B8a840Eafuk0B51k40C"],
    ""⟩,
  ⟨"America/Caracas",
    "LMT:-16064 CMT:-16060 -0430:-16200 -04:-14400",
    ["-15r0wxsBbjfjzwCrlo83wDmeoxm0C4dps00D"],
    ""⟩,
  ⟨"America/Cayenne",
    "LMT:-12560 -04:-14400 -03:-10800",
    ["-uj7yb4Btcw6r4C"],
    ""⟩,
  ⟨"America/Chicago",
    "LMT:-21036 CST:-21600 CDT:-18000 EST:-18000 CWT:-18000 CPT:-18000",
    ["-18y05roBhxldboCast80B7x9g0Cast80Bbvus0C776k0B7kas0Cb5rw0B9d440C7k580Bb5xg0C7x3w0Basys0C",
     "7x3w0Basys0C7x3w0Basys0C7x3w0Basys0C7x3w0Bb5xg0C7x3w0Basys0C7x3w0Basys0C7x3w0Basys0C7x3w",
     "0Basys0C7x3w0Bb5xg0C7k580Bb5xg0C7x3w0Basys0C7x3w0B7x9g0Ddbjw0B8a840C7x3w0Basys0C7x3w0Bb5",
     "xg0C7k580Bb5xg0C7x3w0Basys0C7x3w0B6w840E1tz8c0F2dsw0Basys0C7x3w0Basys0C7x3w0Basys0C7x3w0",
     "Basys0C7x3w0Bb5xg0C7k580Bb5xg0C7x3w0Basys0C7x3w0Basys0C7x3w0Basys0C7x3w0Basys0C9px80B9d4",
     "40C9cyk0B9d440C9cyk0B9d440C9cyk0B9d440C9cyk0B9d440C9px80B9d440C9cyk0B9d440C9cyk0B9d440C9",
     "cyk0B9d440C9cyk0B9d440C9px80B905g0C9px80B9d440C9cyk0B9d440C9cyk0B9d440C9cyk0B9d440C9cyk0",
     "B9d440C9px80B9d440C9cyk0B9d440C9cyk0B3lpg0Cf4d80B64g40Cclmk0B9d440C9px80B905g0C9px80B9d4",
     "40C9cyk0B9d440C9cyk0B9d440C9cyk0B9d440C9cyk0B9d440C9px80B905g0C9px80B9d440C9cyk0B9d440C9",
     "cyk0B9d440C9cyk0B8a840Cafuk0B8a840Cast80B7x9g0Cast80B7x9g0Cast80B8a840Cafuk0B8a840Cafuk0",
     "B8a840Cast80B7x9g0Cast80B7x9g0Cast80B8a840Cafuk0B8a840Cafuk0B8a840Cafuk0B8a840Cast80B7x9",
     "g0Cast80B7x9g0Cast80B8a840Cafuk0B8a840Cafuk0B8a840Cast80B7x9g0Cast80B7x9g0Cast80B"],
    "2007 C 3.2.0/7200 B 11.1.0/7200"⟩,
  ⟨"America/Chihuahua",
    "LMT:-25460 MST:-25200 CST:-21600 MDT:-21600 CDT:-18000",
    ["-p1tkwsB2u708sC1sgdc0B8n400D7thc0B9eys0Cxes2s0Eafuk0C8a840Eafuk0C8aaw0Dafuk0B8a840Dast80",
     "B7x9g0Dast80B9q2s0D7k580B9q2s0Dafuk0B8a840Dafuk0B8a840Dast80B7x9g0Dast80B7x9g0Dast80B7x9",
     "g0Dast80B8a840Dafuk0B8a840Dafuk0B8a840Dast80B7x9g0Dast80B7x9g0Dast80B8a840Dafuk0B8a840Da",
     "fuk0B8a840Dafuk0B8a840Dast80B7x9g0Dast80B7x9g0Dast80B8a840Dafuk0B8a840Dafuk0B8a840Dast80",
     "B7x9g0Dast80C"],
    ""⟩,
  ⟨"America/Ciudad_Juarez",
    "LMT:-25556 MST:-25200 CST:-21600 MDT:-21600 CDT:-18000",
    ["-p1tku4B2u7064C1sgdc0B8n400D7thc0B9eys0Cxes2s0Eafuk0C8a840Eafuk0C8aaw0Dafuk0B8a840Dast80",
     "B7x9g0Dast80B9q2s0D7k580B9q2s0Dafuk0B8a840Dafuk0B8a840Dast80B7x9g0Dast80B7x9g0Dast80B7x9",
     "g0Dast80B8a840Dafuk0B8a840Dafuk0B77c40Dc8nw0B6hes0Dc8nw0B6hes0Dc8nw0B6hes0Dc8nw0B6hes0Dc",
     "8nw0B6hes0Dc8nw0B6udg0Dc8nw0B6hes0Dc8nw0B6hes0Dc8nw0B6hes0Dc8nw0B6hes0Dc8nw0B6udg0Dc8nw0",
     "B6hes0Dbvp80C1l940B"],
    "2023 D 3.2.0/7200 B 11.1.0/7200"⟩,
  ⟨"America/Costa_Rica",
    "LMT:-20173 SJMT:-20173 CST:-21600 CDT:-18000",
    ["-15r0trnBg74lc0Cubtl3nD51ek0Cdoo40D51ek0C5jso40D8drw0Cacas0D2xh80C"],
    ""⟩,
  ⟨"America/Cuiaba",
    "LMT:-13460 -04:-14400 -03:-10800",
    ["-t85hm4B99k9y4C9a9c0B9io40C99980B8p65g0C6zuo0Bbs2o0C67zw0Bcjxg0C69uk0Bcjxg0C4ml80B5mf440",
     "C49mk0Bhaas0C316k0Bcls40C4ml80Bcls40C66580Bcls40C67zw0B981s40C6u7w0Bbiw40C5rbw0Bd0lg0C5e",
     "d80Bcyqs0C5ed80Bdbpg0C64ak0Bcyqs0C64ak0Bcls40C5rbw0Bdbpg0C51ek0Bdbpg0C6h980Bc8tg0C6h980B",
     "c8tg0C64ak0Bc8tg0C6u7w0Bbxpg0C7iak0Bbiw40C6u7w0Bbiw40C7k580Bbiw40C6u7w0Bc8tg0C6h980Bdbpg",
     "0C5ed80Bw5hg0C5nmk0Bc8tg0C6h980Bdbpg0C5rbw0Bbvus0C6h980Bcls40C64ak0Bcls40C6h980Bc8tg0C6h",
     "980Bc8tg0C6u7w0Bc8tg0C64ak0Bcls40C64ak0Bcls40C6h980Bc8tg0C6h980Bc8tg0C6h980Bc8tg0C6h980B",
     "dbpg0C5ed80B"],
    ""⟩,
  ⟨"America/Danmarkshavn",
    "LMT:-4480 -03:-10800 -02:-7200 GMT:0",
    ["-rvusjkBx8nx3kC8zrk0B9d1c0C9d1c0B9d1c0C9d1c0B9d1c0C9d1c0B9d1c0C9q000B9d1c0C9d1c0B9d1c0C9",
     "d1c0B9d1c0C9d1c0B9d1c0C9d1c0B9d1c0C9d1c0B9d1c0C9q000B9d1c0C9d1c0B9d1c0C9d1c0B9d1c0C9d1c0",
     "B9d1c0C9d1c0B9d1c0C9d1c0B53hk0D"],
    ""⟩,
  ⟨"America/Dawson",
    "LMT:-33460 YST:-32400 YDT:-28800 YWT:-28800 YPT:-28800 YDDT:-25200 PST:-28800 PDT:-25200 MST:-25200",
    ["-1079sukB97l62kCa2vw0Basys0C882c0Bbmiwc0D1tz000E2e180Ba7n3w0F9q000B465k00G3e2is0H9cyk0G9",
     "d440H9cyk0G9d440H9px80G905g0H9px80G9d440H9cyk0G9d440H9cyk0G9d440H9cyk0G8a840Hafuk0G8a840",
     "Hast80G7x9g0Hast80G7x9g0Hast80G8a840Hafuk0G8a840Hafuk0G8a840Hast80G7x9g0Hast80G7x9g0Hast",
     "80G8a840Hafuk0G8a840Hafuk0G8a840Hafuk0G8a840Hast80G7x9g0Hast80G7x9g0Hast80G8a840Hafuk0G8",
     "a840Hafuk0G8a840Hast80G7x9g0Hast80G7x9g0Hast80G6udg0Hc8nw0G6hes0Hc8nw0G6hes0Hc8nw0G6udg0",
     "Hc8nw0G6hes0Hc8nw0G6hes0Hc8nw0G6hes0Hc8nw0G6hes0Hc8nw0G6hes0Hc8nw0G6udg0Hc8nw0G6hes0Hc8n",
     "w0G6hes0Hc8nw0G6hes0Hc8nw0G6hes0Hc8ic0I"],
    ""⟩,
  ⟨"America/Dawson_Creek",
    "LMT:-28856 PST:-28800 PDT:-25200 PWT:-25200 PPT:-25200 MST:-25200",
    ["-18vrwegBhw36ugCa2vw0Bc5jxg0D1tz2s0E2dyg0Btj1g0C7x3w0Basys0C7x3w0Basys0C7x3w0Bb5xg0C7k58",
     "0Bb5xg0C7x3w0Basys0C7x3w0Basys0C7x3w0Basys0C7x3w0Basys0C7x3w0Bb5xg0C7x3w0Basys0C7x3w0Bas",
     "ys0C7x3w0Basys0C7x3w0Basys0C7x3w0Bb5xg0C7k580Bb5xg0C9cyk0B9d440C9cyk0B9d440C9cyk0B9d440C",
     "9px80B905g0C9px80B9d440C9cyk0B9d440C9cyk0B9d440C9cyk0B9d440C9cyk0B9d440C9px80B9d440C69uk",
     "0F"],
    ""⟩,
  ⟨"America/Denver",
    "LMT:-25196 MST:-25200 MDT:-21600 MWT:-21600 MPT:-21600",
    ["-18xzzs4Bhxla44Cast80B7x9g0Cast80B7x9g0Cb5rw0B7kas0C2vmk0Bataw40D1tz5k0E2dvo0Ba7n9g0C9px",
     "80B905g0C9px80B9d440C9cyk0B9d440C9cyk0B9d440C9cyk0B9d440C9cyk0B9d440C9px80B9d440C9cyk0B9",
     "d440C9cyk0B3lpg0Cf4d80B64g40Cclmk0B9d440C9px80B905g0C9px80B9d440C9cyk0B9d440C9cyk0B9d440",
     "C9cyk0B9d440C9cyk0B9d440C9px80B905g0C9px80B9d440C9cyk0B9d440C9cyk0B9d440C9cyk0B8a840Cafu",
     "k0B8a840Cast80B7x9g0Cast80B7x9g0Cast80B8a840Cafuk0B8a840Cafuk0B8a840Cast80B7x9g0Cast80B7",
     "x9g0Cast80B8a840Cafuk0B8a840Cafuk0B8a840Cafuk0B8a840Cast80B7x9g0Cast80B7x9g0Cast80B8a840",
     "Cafuk0B8a840Cafuk0B8a840Cast80B7x9g0Cast80B7x9g0Cast80B"],
    "2007 C 3.2.0/7200 B 11.1.0/7200"⟩,
  ⟨"America/Detroit",
    "LMT:-19931 CST:-21600 EST:-18000 EWT:-14400 EPT:-14400 EDT:-14400",
    ["-xx8dydB5eraudCdyeyk0D1tzb40E2dq40C1c9440F7x3w0C9rlbxoF71s2cC9d440F9cyk0C2cmdg0F9cyk0C3l",
     "pg0Ff4d80C9d440F9cyk0C9d440F9px80C905g0F9px80C9d440F9cyk0C9d440F9cyk0C9d440F9cyk0C9d440F",
     "9cyk0C9d440F9px80C905g0F9px80C9d440F9cyk0C9d440F9cyk0C9d440F9cyk0C8a840Fafuk0C8a840Fast8",
     "0C7x9g0Fast80C7x9g0Fast80C8a840Fafuk0C8a840Fafuk0C8a840Fast80C7x9g0Fast80C7x9g0Fast80C8a",
     "840Fafuk0C8a840Fafuk0C8a840Fafuk0C8a840Fast80C7x9g0Fast80C7x9g0Fast80C8a840Fafuk0C8a840F",
     "afuk0C8a840Fast80C7x9g0Fast80C7x9g0Fast80C"],
    "2007 F 3.2.0/7200 C 11.1.0/7200"⟩,
  ⟨"America/Edmonton",
    "LMT:-27232 MST:-25200 MDT:-21600 MWT:-21600 MPT:-21600",
    ["-x1yazkB629inkCa2vw0B8n6s0C29ek0Bh6lg0C9px80B905g0C7x3w0Bb5xg0C7k580Bb5xg0C7x3w0B9l0g40D",
     "1tz5k0E2dvo0Btj1g0C7x3w0Bctzk40C9cyk0B9d440C9cyk0B9d440C9cyk0B9d440C9cyk0B9d440C9px80B90",
     "5g0C9px80B9d440C9cyk0B9d440C9cyk0B9d440C9cyk0B9d440C9cyk0B9d440C9px80B905g0C9px80B9d440C",
     "9cyk0B9d440C9cyk0B9d440C9cyk0B8a840Cafuk0B8a840Cast80B7x9g0Cast80B7x9g0Cast80B8a840Cafuk",
     "0B8a840Cafuk0B8a840Cast80B7x9g0Cast80B7x9g0Cast80B8a840Cafuk0B8a840Cafuk0B8a840Cafuk0B8a",
     "840Cast80B7x9g0Cast80B7x9g0Cast80B8a840Cafuk0B8a840Cafuk0B8a840Cast80B7x9g0Cast80B7x9g0C",
     "ast80B"],
    "2007 C 3.2.0/7200 B 11.1.0/7200"⟩,
  ⟨"America/Eirunepe",
    "LMT:-16768 -05:-18000 -04:-14400",
    ["-t85f28B99ka68C9a9c0B9io40C99980B8p65g0C6zuo0Bbs2o0C67zw0Bcjxg0C69uk0Bcjxg0C4ml80B5mf440",
     "C49mk0Bhaas0C316k0Bcls40C4ml80Bcls40C66580Bcls40C67zw0B981s40C6u7w0Bbiw40C5rbw0Bd0lg0C5e",
     "d80B2yy2s0C6h980B7hg2s0C2t2t80B"],
    ""⟩,
  ⟨"America/El_Salvador",
    "LMT:-21408 CST:-21600 CDT:-18000",
    ["-pkm4tcBymao5cC7k580Bb5xg0C7k580B"],
    ""⟩,
  ⟨"America/Fort_Nelson",
    "LMT:-29447 PST:-28800 PDT:-25200 PWT:-25200 PPT:-25200 MST:-25200",
    ["-18vrvy1Bhw36e1Ca2vw0Bc5jxg0D1tz2s0E2dyg0Btj1g0C7x3w0Basys0C7x3w0Basys0C7x3w0Bb5xg0C7k58",
     "0Bb5xg0C7x3w0Basys0C7x3w0Basys0C7x3w0Basys0C7x3w0Basys0C7x3w0Bb5xg0C7x3w0Basys0C7x3w0Bas",
     "ys0C7x3w0Basys0C7x3w0Basys0C7x3w0Bb5xg0C7k580Bb5xg0C9cyk0B9d440C9cyk0B9d440C9cyk0B9d440C",
     "9px80B905g0C9px80B9d440C9cyk0B9d440C9cyk0B9d440C9cyk0B9d440C9cyk0B9d440C9px80B9d440C9cyk",
     "0B9d440C9cyk0B9d440C9cyk0B9d440C9cyk0B9d440C9px80B905g0C9px80B9d440C9cyk0B9d440C9cyk0B9d",
     "440C9cyk0B9d440C9cyk0B9d440C9px80B905g0C9px80B9d440C9cyk0B9d440C9cyk0B9d440C9cyk0B8a840C",
     "afuk0B8a840Cast80B7x9g0Cast80B7x9g0Cast80B8a840Cafuk0B8a840Cafuk0B8a840Cast80B7x9g0Cast8",
     "0B7x9g0Cast80B8a840Cafuk0B8a840Cafuk0B8a840Cafuk0B8a840Cast80B7x9g0Cast80B7x9g0Cast80B8a",
     "840Cafuk0B8a840Cafuk0B8a840Cast80B7x9g0Cast80B7x9g0Cast80B6udg0Cc8nw0B6hes0Cc8nw0B6hes0C",
     "c8nw0B6udg0Cc8nw0B6hes0Cc8nw0B6hes0Cc8nw0B6hes0Cc8nw0B6hes0Cc8nw0B6hes0F"],
    ""⟩,
  ⟨"America/Fortaleza",
    "LMT:-9240 -03:-10800 -02:-7200",
    ["-t85kvcB99kafcC9a9c0B9io40C99980B8p65g0C6zuo0Bbs2o0C67zw0Bcjxg0C69uk0Bcjxg0C4ml80B5mf440",
     "C49mk0Bhaas0C316k0Bcls40C4ml80Bcls40C66580Bcls40C67zw0B981s40C6u7w0Bbiw40C5rbw0Bd0lg0C5e",
     "d80Bcyqs0C5ed80Bdbpg0C64ak0B514g40C7k580Bbiw40Cpuk0Bid6s0C6h980B"],
    ""⟩,
  ⟨"America/Glace_Bay",
    "LMT:-14388 AST:-14400 ADT:-10800 AWT:-10800 APT:-10800",
    ["-z94kwcB89fk8cCa2vw0Bc5jxg0D1tzdw0E2dnc0B3y8g40C7x3w0B9pa5g0C9cyk0B9d440C9cyk0B9d440C9cy",
     "k0B9d440C9cyk0B9d440C9px80B905g0C9px80B9d440C9cyk0B9d440C9cyk0B9d440C9cyk0B9d440C9cyk0B9",
     "d440C9px80B905g0C9px80B9d440C9cyk0B9d440C9cyk0B9d440C9cyk0B8a840Cafuk0B8a840Cast80B7x9g0",
     "Cast80B7x9g0Cast80B8a840Cafuk0B8a840Cafuk0B8a840Cast80B7x9g0Cast80B7x9g0Cast80B8a840Cafu",
     "k0B8a840Cafuk0B8a840Cafuk0B8a840Cast80B7x9g0Cast80B7x9g0Cast80B8a840Cafuk0B8a840Cafuk0B8",
     "a840Cast80B7x9g0Cast80B7x9g0Cast80B"],
    "2007 C 3.2.0/7200 B 11.1.0/7200"⟩,
  ⟨"America/Goose_Bay",
    "LMT:-14500 NST:-12652 NDT:-9052 NST:-12600 NDT:-9000 NWT:-9000 NPT:-9000 AST:-14400 ADT:-10800 ADDT:-7200",
    ["-18vs7h8Bhw35goCa2vw0B8kjbw0DkzjykE7k580Db5xg0E7k580Db5xg0E7k580Dbiw40E776k0Dbiw40E7k580",
     "Db5xg0E7k580Db5xg0F1pb260G2dly0Dbiw40E7k580Db5xg0E7k580Db5xg0E7k580Db5xg0E7k580Dbiw40E7k",
     "580Dag040E7x3w0Dasys0E7x3w0Dasys0E7x3w0Dasys0E7x3w0Dasys0E7x3w0Db5xg0E7x3w0Dasys0E7x3w0D",
     "asys0E7x3w0Dasys0E7x3w0Dasys0E9px80D9d440E9cyk0D9d440E9cyk0D9d440E9cyk0D9d440E9cyk0D9d44",
     "0E9px80D6y2s0H22420I9px80H9d440I9cyk0H9d440I9cyk0H9d440I9cyk0H9d440I9cyk0H9d440I9px80H9d",
     "440I9cyk0H9d440I9cyk0H9d440I9cyk0H9d440I9cyk0H9d440I9px80H905g0I9px80H9d440I9cyk0H9d440I",
     "9cyk0H9d440I9cyk0H9d440I9cyk0H9d440I9px80H905g0I9px80H9d440I9cyk0H9d440I9cyk0H9d440I9cyk",
     "0H8a2loIafuk0H8a840Jasqg0H7xc80Iast80H7x9g0Iast80H8a840Iafuk0H8a840Iafuk0H8a840Iast80H7x",
     "9g0Iast80H7x9g0Iast80H8a840Iafuk0H8a840Iafuk0H8a840Iafuk0H8a840Iast80H7x9g0Iast80H7x9g0I",
     "ast80H8a840Iafuk0H8a840Iafuk0H8a840Iast80H7x9g0Iast80H7x9g0Iast80H6udg0Ic8nw0H6hes0Ic8nw",
     "0H6hes0Ic8nw0H6udg0Ic8nw0H6hes0Ic8tecH"],
    "2012 I 3.2.0/7200 H 11.1.0/7200"⟩,
  ⟨"America/Grand_Turk",
    "LMT:-17072 KMT:-18430 EST:-18000 EDT:-14400 AST:-14400",
    ["-15r0w5sBbiv7pqCz3brw2D9cyk0C9d440D9cyk0C9d440D9cyk0C9d440D9px80C905g0D9px80C9d440D9cyk0",
     "C9d440D9cyk0C9d440D9cyk0C8a840Dafuk0C8a840Dast80C7x9g0Dast80C7x9g0Dast80C8a840Dafuk0C8a8",
     "40Dafuk0C8a840Dast80C7x9g0Dast80C7x9g0Dast80C8a840Dafuk0C8a840Dafuk0C8a840Dafuk0C8a840Da",
     "st80C7x9g0Dast80C7x9g0Dast80C8a840Dafuk0C8a840Dafuk0C8a840Dast80C7x9g0Dast80C7x9g0Dast80",
     "C6udg0Dc8nw0C6hes0Dc8nw0C6hes0Dc8nw0C6udg0Dc8nw0C6hes0Dc8nw0C6hes0Dc8nw0C6hes0Dc8nw0C6he",
     "s0Dc8nw0C6hes0E"],
    "2018 D 3.2.0/7200 C 11.1.0/7200"⟩,
  ⟨"America/Guatemala",
    "LMT:-21724 CST:-21600 CDT:-18000",
    ["-qqqskkBss0akkC4ofw0B4tidg0C6djw0B3wwas0C8n180B7n5ms0C7x3w0B"],
    ""⟩,
  ⟨"America/Guayaquil",
    "LMT:-19160 QMT:-18840 -05:-18000 -04:-14400",
    ["-15r0ujsBle9mf4Cwb620oD3jp80C"],
    ""⟩,
  ⟨"America/Guyana",
    "LMT:-13959 -04:-14400 -0345:-13500 -03:-10800",
    ["-uhmik9B1va8c9Cvj6nb0D8p0jd0B"],
    ""⟩,
  ⟨"America/Halifax",
    "LMT:-15264 AST:-14400 ADT:-10800 AWT:-10800 APT:-10800",
    ["-z94k80B777go0C9et80Bst9o0Ca2vw0Bssyk0C5rbw0Bcv1g0C69uk0Bc6ys0C6kyk0Bci2s0C67zw0Bci2s0C6",
     "w2k0Bbu040C7lzw0Bbu040C66580Bbu040C7lzw0Bbu040C64ak0Bcls40C5v180Bcv1g0C6j3w0Bc6ys0C79180",
     "Bb42s0C7lzw0Bb42s0C7yyk0Bbu040C64ak0Bdbpg0C66580Bcls40C5ed80Bbu040C7lzw0Bb42s0C7lzw0Bcjx",
     "g0C66580Bbh1g0C7lzw0Bb42s0C7lzw0B6uj00D1tzdw0E2dnc0Basys0C7x3w0Basys0C7x3w0Basys0C7x3w0B",
     "asys0C7x3w0Btw040C7x3w0Basys0C7x3w0Basys0C7x3w0Basys0C7x3w0Btw040C7x3w0Basys0C7x3w0Basys",
     "0C7x3w0Basys0C7x3w0B1cm2s0C9cyk0B9d440C9cyk0B9d440C9cyk0B9d440C9px80B905g0C9px80B9d440C9",
     "cyk0B9d440C9cyk0B9d440C9cyk0B9d440C9cyk0B9d440C9px80B9d440C9cyk0B9d440C9cyk0B9d440C9cyk0",
     "B9d440C9cyk0B9d440C9px80B905g0C9px80B9d440C9cyk0B9d440C9cyk0B9d440C9cyk0B9d440C9cyk0B9d4",
     "40C9px80B905g0C9px80B9d440C9cyk0B9d440C9cyk0B9d440C9cyk0B8a840Cafuk0B8a840Cast80B7x9g0Ca",
     "st80B7x9g0Cast80B8a840Cafuk0B8a840Cafuk0B8a840Cast80B7x9g0Cast80B7x9g0Cast80B8a840Cafuk0",
     "B8a840Cafuk0B8a840Cafuk0B8a840Cast80B7x9g0Cast80B7x9g0Cast80B8a840Cafuk0B8a840Cafuk0B8a8",
     "40Cast80B7x9g0Cast80B7x9g0Cast80B"],
    "2007 C 3.2.0/7200 B 11.1.0/7200"⟩,
  ⟨"America/Havana",
    "LMT:-19768 HMT:-19776 CST:-18000 CDT:-14400",
    ["-15r0u2wBijto08C1icfyoD69uk0C62s040D4ofw0Ce1ms0D51ek0Ce1ms0D4ofw0C1fhs40D4ofw0Ce1ms0D4of",
     "w0C9s9k40D67zw0Ccedg0D6h980C9o840D7yyk0Cb5xg0D7k580Cbvus0D9cyk0C9d440D9cyk0C9d440D9px80C",
     "9d440D8a2k0Cag040D8bx80Cae5g0D8drw0Cacas0D9cyk0C9d440D9px80C905g0D9px80C9q2s0D7x3w0C8a84",
     "0Dast80C7x9g0Dast80Casys0D7x3w0Casys0D7x3w0Casys0D7x3w0Casys0D8a2k0Cag040D8a2k0C7x9g0Das",
     "t80C7x9g0Dast80C8a840Dafuk0C8a840Dafuk0C905g0Da2vw0C905g0D9q000C902o0D9q000C902o0D9q000C",
     "902o0D9q000C902o0D9q000C9d1c0D9d1c0C9d1c0D9q000C8n400Dasw00C7x6o0Db5uo0C7x6o0Dasw00C7x6o",
     "0Dasw00C8a5c0Dafxc0C8a5c0Dafxc0C7x6o0D1cm000C6uao0Dbvs00C779c0Dbitc0C6uao0Dbvs00C779c0Db",
     "vs00C779c0Dc8qo0C779c0Db5uo0C"],
    "2013 D 3.2.0/0 C 11.1.0/3600"⟩,
  ⟨"America/Hermosillo",
    "LMT:-26632 MST:-25200 CST:-21600 MDT:-21600 PST:-28800",
    ["-p1tk08B2u6zc8C1sgdc0B8n400D7thc0B9eys0C591h80B3ie2s0Eaxvpg0Bdpgw40Dafuk0B8a840Dafuk0B8a",
     "840Dafuk0B"],
    ""⟩,
  ⟨"America/Indiana/Indianapolis",
    "LMT:-20678 CST:-21600 CDT:-18000 CWT:-18000 CPT:-18000 EST:-18000 EDT:-14400",
    ["-18y061mBhxldlmCast80B7x9g0Cast80Bbaw840C51ek0B6w840D1tz8c0E2dsw0Basys0C7x3w0Basys0C7x3w",
     "0Basys0C7x3w0Basys0C7x3w0Bb5xg0C7k580Bb5xg0C7x3w0Basys0C7x3w0Basys0C7x3w0Basys0C7x3w0Bas",
     "ys0F19q7w0Basys0F5qonw0G9cyk0F9d440G9cyk0Fihslg0Gast80F"],
    "2007 G 3.2.0/7200 F 11.1.0/7200"⟩,
  ⟨"America/Indiana/Knox",
    "LMT:-20790 CST:-21600 CDT:-18000 CWT:-18000 CPT:-18000 EST:-18000",
    ["-18y05yiBhxldiiCast80B7x9g0Cast80Bbmtus0D1tz8c0E2dsw0Btj1g0C7x3w0Basys0C7x3w0Basys0C7x3w",
     "0Bb5xg0C7k580Bb5xg0C7x3w0Basys0C7x3w0Basys0C7x3w0Basys0C7x3w0Basys0C9px80B9d440C9cyk0B9d",
     "440C7x3w0Basys0C7x3w0Basys0C9cyk0B9d440C9px80B9d440C9cyk0B9d440Fs3180B1twas0C9cyk0B9d440",
     "C9cyk0B9d440C9cyk0B9d440C9cyk0B9d440C9px80B9d440C9cyk0B9d440C9cyk0B3lpg0Cf4d80B64g40Cclm",
     "k0B9d440C9px80B905g0C9px80B9d440C9cyk0B9d440C9cyk0B9d440C9cyk0B9d440C9cyk0B9d440C9px80B9",
     "05g0C9px80B9d440C9cyk0B9d440C9cyk0B9d440C9cyk0B8a840Cafuk0B8a840Cast80B7x9g0Cast80B7x9g0",
     "Cast80B8a840Cafuk0F7j5400Casw00B"],
    "2007 C 3.2.0/7200 B 11.1.0/7200"⟩,
  ⟨"America/Indiana/Marengo",
    "LMT:-20723 CST:-21600 CDT:-18000 CWT:-18000 CPT:-18000 EST:-18000 EDT:-14400",
    ["-18y060dBhxldkdCast80B7x9g0Cast80Bbmtus0D1tz8c0E2dsw0B2wsas0C7x3w0B1c9440C7x3w0Basys0C7x",
     "3w0Bb5xg0C7x3w0Basys0C7x3w0Basys0C7x3w0Basys0C7x3w0Basys0C7x3w0Bb5xg0F465h80G9cyk0F9d440",
     "G9cyk0F9d440G9px80F9d440G9cyk0F9d440G9cyk0F3lpg0Cf4g00F64dc0Gclmk0Ffvt9g0Gast80F"],
    "2007 G 3.2.0/7200 F 11.1.0/7200"⟩,
  ⟨"America/Indiana/Petersburg",
    "LMT:-20947 CST:-21600 CDT:-18000 CWT:-18000 CPT:-18000 EST:-18000 EDT:-14400",
    ["-18y05u5Bhxlde5Cast80B7x9g0Cast80Bbmtus0D1tz8c0E2dsw0B501ek0C7kas0Bb5xg0C7x3w0Basys0C7x3",
     "w0Basys0C7x3w0Basys0C7x3w0Basys0C7x3w0Bb5xg0C9cyk0B9d440C9cyk0B9d440C9cyk0B9d440C9cyk0B9",
     "d440Fsfzw0B9d440C9cyk0B9d440C9cyk0B9d440C9cyk0B9d440C9cyk0B9d440C9px80B9d440C9cyk0B9d440",
     "C9cyk0B3lpg0Cf4d80B64g40Cclmk0B9d440C9px80B905g0C9px80Feu02o0Casw00B6udg0Cc8nw0F"],
    "2008 G 3.2.0/7200 F 11.1.0/7200"⟩,
  ⟨"America/Indiana/Tell_City",
    "LMT:-20823 CST:-21600 CDT:-18000 CWT:-18000 CPT:-18000 EST:-18000 EDT:-14400",
    ["-18y05xlBhxldhlCast80B7x9g0Cast80Bbmtus0D1tz8c0E2dsw0B501ek0C7kas0Bb5xg0C7x3w0Basys0C7x3",
     "w0Basys0C7x3w0Basys0C7x3w0Basys0C7x3w0Bb5xg0C9cyk0B9d440C9cyk0B9d440C9cyk0B9d440F1tw580B",
     "9d440C9cyk0B9d440G9cvs0F9d440G9cyk0Fihslg0Casw00B"],
    "2007 C 3.2.0/7200 B 11.1.0/7200"⟩,
  ⟨"America/Indiana/Vevay",
    "LMT:-20416 CST:-21600 CDT:-18000 CWT:-18000 CPT:-18000 EST:-18000 EDT:-14400",
    ["-18y068wBhxldswCast80B7x9g0Cast80Bbmtus0D1tz8c0E2dsw0B4gyis0F7txx80G9cyk0F9d440G9cyk0F9d",
     "440G9px80F9d440G9cyk0Fhfzhg0Gast80F"],
    "2007 G 3.2.0/7200 F 11.1.0/7200"⟩,
  ⟨"America/Indiana/Vincennes",
    "LMT:-21007 CST:-21600 CDT:-18000 CWT:-18000 CPT:-18000 EST:-18000 EDT:-14400",
    ["-18y05shBhxldchCast80B7x9g0Cast80Bbmtus0D1tz8c0E2dsw0Basys0C7x3w0B3fidg0C7x3w0Basys0C7x3",
     "w0Bb5rw0C7kas0Bb5xg0C7x3w0Basys0C7x3w0Basys0C7x3w0Basys0C7x3w0Basys0C9px80B9d440C7k580Bb",
     "5xg0C9cyk0B9d440C9cyk0B9d440F2lz980G9cyk0F9d440G9cyk0Fihslg0Casw00B6udg0Cc8nw0F"],
    "2008 G 3.2.0/7200 F 11.1.0/7200"⟩,
  ⟨"America/Indiana/Winamac",
    "LMT:-20785 CST:-21600 CDT:-18000 CWT:-18000 CPT:-18000 EST:-18000 EDT:-14400",
    ["-18y05ynBhxldinCast80B7x9g0Cast80Bbmtus0D1tz8c0E2dsw0Basys0C7x3w0Basys0C7x3w0Basys0C7x3w",
     "0Basys0C7x3w0Bb5xg0C7k580Bb5xg0C7x3w0Basys0C7x3w0Basys0C7x3w0Basys0C7x3w0Basys0C9px80B9d",
     "440C9cyk0B9d440C7x3w0Basys0C7x3w0Basys0C7x3w0Basys0C7x3w0Bb5xg0F465h80G9cyk0F9d440G9cyk0",
     "Fihslg0Casw00B6udg0Gc8l40F"],
    "2008 G 3.2.0/7200 F 11.1.0/7200"⟩,
  ⟨"America/Inuvik",
    "-00:0 PST:-28800 PDT:-25200 MDT:-21600 MST:-25200",
    ["-8ve5c0Ba34zs0C9cyk0B9d440C9cyk0B9d440C9cyk0B9d440C9cyk0B9d440C9px80B905g0C9px80B9d440C9",
     "cyk0B9d440D9cvs0E9d440D9cyk0E9d440D9cyk0E9d440D9px80E905g0D9px80E9d440D9cyk0E9d440D9cyk0",
     "E9d440D9cyk0E8a840Dafuk0E8a840Dast80E7x9g0Dast80E7x9g0Dast80E8a840Dafuk0E8a840Dafuk0E8a8",
     "40Dast80E7x9g0Dast80E7x9g0Dast80E8a840Dafuk0E8a840Dafuk0E8a840Dafuk0E8a840Dast80E7x9g0Da",
     "st80E7x9g0Dast80E8a840Dafuk0E8a840Dafuk0E8a840Dast80E7x9g0Dast80E7x9g0Dast80E"],
    "2007 D 3.2.0/7200 E 11.1.0/7200"⟩,
  ⟨"America/Iqaluit",
    "-00:0 EWT:-14400 EPT:-14400 EST:-18000 EDT:-14400 CST:-21600 CDT:-18000",
    ["-eb6ao0B1l3h80C2dq40Ddvfpg0E9cyk0D9d440E9cyk0D9d440E9cyk0D9d440E9cyk0D9d440E9px80D905g0E",
     "9px80D9d440E9cyk0D9d440E9cyk0D9d440E9cyk0D9d440E9cyk0D9d440E9px80D905g0E9px80D9d440E9cyk",
     "0D9d440E9cyk0D9d440E9cyk0D8a840Eafuk0D8a840East80D7x9g0East80D7x9g0East80D8a840Eafuk0D8a",
     "840Eafuk0D8a840East80D7x9g0East80D7x9g0East80D8a840Eafuk0D8a840Eafuk0D8a840Eafuk0D8a840E",
     "ast80F7xc80Gast80D7x6o0East80D8a840Eafuk0D8a840Eafuk0D8a840East80D7x9g0East80D7x9g0East8",
     "0D"],
    "2007 E 3.2.0/7200 D 11.1.0/7200"⟩,
  ⟨"America/Jamaica",
    "LMT:-18430 KMT:-18430 EST:-18000 EDT:-14400",
    ["-15r0v42Bbiv6o0Cwbl182Df4d80C64g40Dclmk0C9d440D9px80C905g0D9px80C9d440D9cyk0C9d440D9cyk0",
     "C9d440D9cyk0C9d440D9cyk0C9d440D9px80C905g0D9px80C"],
    ""⟩,
  ⟨"America/Juneau",
    "LMT:54139 LMT:-32261 PST:-28800 PWT:-25200 PPT:-25200 PDT:-25200 YDT:-28800 YST:-32400 AKST:-32400 AKDT:-28800",
    ["-1hc7qjzBh4yu44Cln707vD1tz2s0E2dyg0Ccawis0F9cyk0C9d440F9cyk0C9d440F9px80C9d440F9cyk0C9d4",
     "40F9cyk0C3lpg0Ff4d80C64g40Fclmk0C9d440F9px80C905g0F9px80C9d440F9cyk0C9d440F9cyk0C9d440G9",
     "d1c0C9d1c0F9cyk0C9d440F9px80C905g0F9px80H1leo0I7rs80J9cyk0I9d440J9cyk0I9d440J9cyk0I8a840",
     "Jafuk0I8a840Jast80I7x9g0Jast80I7x9g0Jast80I8a840Jafuk0I8a840Jafuk0I8a840Jast80I7x9g0Jast",
     "80I7x9g0Jast80I8a840Jafuk0I8a840Jafuk0I8a840Jafuk0I8a840Jast80I7x9g0Jast80I7x9g0Jast80I8",
     "a840Jafuk0I8a840Jafuk0I8a840Jast80I7x9g0Jast80I7x9g0Jast80I"],
    "2007 J 3.2.0/7200 I 11.1.0/7200"⟩,
  ⟨"America/Kentucky/Louisville",
    "LMT:-20582 CST:-21600 CDT:-18000 CWT:-18000 CPT:-18000 EST:-18000 EDT:-14400",
    ["-18y064aBhxldoaCast80B7x9g0Cast80Bsg5g0C6bp80Ba98o40C7x3w0B6w840D1tz8c0E2dsw0Bast9oC1sw2",
     "cB21gis0C7k580Bb5xg0C7x3w0Basys0C7x3w0Basys0C7x3w0Basys0C7x3w0Basys0C7x3w0Bb5xg0C9cyk0B9",
     "d440C9cyk0B9d440C9cyk0B9d440C9cyk0B9d440C9px80B9d440C4bh80F3j3xc0G9cyk0F9d440G9cyk0F9d44",
     "0G9cyk0F9d440G9px80F9d440G9cyk0F9d440G9cyk0F3lpg0Cf4g00F64dc0Gclmk0F9d440G9px80F905g0G9p",
     "x80F9d440G9cyk0F9d440G9cyk0F9d440G9cyk0F9d440G9cyk0F9d440G9px80F905g0G9px80F9d440G9cyk0F",
     "9d440G9cyk0F9d440G9cyk0F8a840Gafuk0F8a840Gast80F7x9g0Gast80F7x9g0Gast80F8a840Gafuk0F8a84",
     "0Gafuk0F8a840Gast80F7x9g0Gast80F7x9g0Gast80F8a840Gafuk0F8a840Gafuk0F8a840Gafuk0F8a840Gas",
     "t80F7x9g0Gast80F7x9g0Gast80F8a840Gafuk0F8a840Gafuk0F8a840Gast80F7x9g0Gast80F7x9g0Gast80F"],
    "2007 G 3.2.0/7200 F 11.1.0/7200"⟩,
  ⟨"America/Kentucky/Monticello",
    "LMT:-20364 CST:-21600 CDT:-18000 CWT:-18000 CPT:-18000 EST:-18000 EDT:-14400",
    ["-18y06acBhxlducCast80B7x9g0Cast80Bbmtus0D1tz8c0E2dsw0Bbs6g40C9cyk0B9d440C9cyk0B9d440C9cy",
     "k0B9d440C9px80B9d440C9cyk0B9d440C9cyk0B3lpg0Cf4d80B64g40Cclmk0B9d440C9px80B905g0C9px80B9",
     "d440C9cyk0B9d440C9cyk0B9d440C9cyk0B9d440C9cyk0B9d440C9px80B905g0C9px80B9d440C9cyk0B9d440",
     "C9cyk0B9d440C9cyk0B8a840Cafuk0B8a840Cast80B7x9g0Cast80B7x9g0Cast80B8a840Cafuk0B8a840Cafu",
     "k0B8a840Cast80B7x9g0Cast80B7x9g0Cast80B8a840Cafuk0B8a840Cafuk0B8a840Cafuk0B8a840Cast80B7",
     "x9g0Cast80F7x6o0Gast80F8a840Gafuk0F8a840Gafuk0F8a840Gast80F7x9g0Gast80F7x9g0Gast80F"],
    "2007 G 3.2.0/7200 F 11.1.0/7200"⟩,
  ⟨"America/La_Paz",
    "LMT:-16356 CMT:-16356 BST:-12756 -04:-14400",
    ["-15r0wpoBlt1400C84ik0D"],
    ""⟩,
  ⟨"America/Lima",
    "LMT:-18492 LMT:-18516 -05:-18000 -04:-14400",
    ["-15r0v2cB9ov9coCfcxjloD4ml80C93us0D9cyk0C9d440D9cyk0Cnw16s0D4ml80Ce5c40D4ml80C1fr1g0D4ml",
     "80C1yiys0D4ml80C"],
    ""⟩,
  ⟨"America/Los_Angeles",
    "LMT:-28378 PST:-28800 PDT:-25200 PWT:-25200 PPT:-25200",
    ["-18xzujqBhxl7nqCast80B7x9g0Cast80Bbmtus0D1tz2s0E2dyg0B1a3c5oCf2iicBowao0C7k800Bb5uo0C7x6",
     "o0Basw00C7x6o0Basw00C7x6o0Basw00C7x6o0Basw00C7x6o0Bb5uo0C7x6o0Basw00C7x6o0Basw00C7x6o0Ba",
     "sw00C7x6o0Basw00C7x6o0Bb5uo0C7k800Bb5uo0C9d1c0B9d1c0C9d1c0B9d1c0C9d1c0B9d1c0C9q000B902o0",
     "C9q000B9d440C9cyk0B9d440C9cyk0B9d440C9cyk0B9d440C9cyk0B9d440C9px80B9d440C9cyk0B9d440C9cy",
     "k0B3lpg0Cf4d80B64g40Cclmk0B9d440C9px80B905g0C9px80B9d440C9cyk0B9d440C9cyk0B9d440C9cyk0B9",
     "d440C9cyk0B9d440C9px80B905g0C9px80B9d440C9cyk0B9d440C9cyk0B9d440C9cyk0B8a840Cafuk0B8a840",
     "Cast80B7x9g0Cast80B7x9g0Cast80B8a840Cafuk0B8a840Cafuk0B8a840Cast80B7x9g0Cast80B7x9g0Cast",
     "80B8a840Cafuk0B8a840Cafuk0B8a840Cafuk0B8a840Cast80B7x9g0Cast80B7x9g0Cast80B8a840Cafuk0B8",
     "a840Cafuk0B8a840Cast80B7x9g0Cast80B7x9g0Cast80B"],
    "2007 C 3.2.0/7200 B 11.1.0/7200"⟩,
  ⟨"America/Maceio",
    "LMT:-8572 -03:-10800 -02:-7200",
    ["-t85ldwB99kaxwC9a9c0B9io40C99980B8p65g0C6zuo0Bbs2o0C67zw0Bcjxg0C69uk0Bcjxg0C4ml80B5mf440",
     "C49mk0Bhaas0C316k0Bcls40C4ml80Bcls40C66580Bcls40C67zw0B981s40C6u7w0Bbiw40C5rbw0Bd0lg0C5e",
     "d80Bcyqs0C5ed80Bdbpg0C64ak0B2yl440C64ak0B1wf1g0C7k580Bbiw40Cpuk0Bid6s0C6h980B"],
    ""⟩,
  ⟨"America/Managua",
    "LMT:-20708 MMT:-20712 CST:-21600 EST:-18000 CDT:-18000",
    ["-15r0tcsBn7jmo4Cka1i0oDxqqk0C24p6s0E53980Cdmtg0E53980C60itw0Ddq240C53es0D235h80C4beis0E8",
     "zzw0Cat4c0E7x140C"],
    ""⟩,
  ⟨"America/Manaus",
    "LMT:-14404 -04:-14400 -03:-10800",
    ["-t85gvwB99k97wC9a9c0B9io40C99980B8p65g0C6zuo0Bbs2o0C67zw0Bcjxg0C69uk0Bcjxg0C4ml80B5mf440",
     "C49mk0Bhaas0C316k0Bcls40C4ml80Bcls40C66580Bcls40C67zw0B981s40C6u7w0Bbiw40C5rbw0Bd0lg0C5e",
     "d80B2yy2s0C6h980B"],
    ""⟩,
  ⟨"America/Martinique",
    "LMT:-14660 FFMT:-14660 AST:-14400 ADT:-10800",
    ["-15r0y0sBb4o2o0Czz5x4sD8zzw0C"],
    ""⟩,
  ⟨"America/Matamoros",
    "LMT:-23400 CST:-21600 CDT:-18000",
    ["-p1tpa0Byksm60Cast80B3vppg0Cafuk0B8a840Cafuk0B8a840Cafuk0B8a840Cast80B7x9g0Cast80B9q2s0C",
     "7k580B9q2s0Cafuk0B8a840Cafuk0B8a840Cast80B7x9g0Cast80B7x9g0Cast80B7x9g0Cast80B8a840Cafuk",
     "0B8a840Cafuk0B"],
    "2010 C 3.2.0/7200 B 11.1.0/7200"⟩,
  ⟨"America/Mazatlan",
    "LMT:-25540 MST:-25200 CST:-21600 MDT:-21600 PST:-28800",
    ["-p1tkukB2u706kC1sgdc0B8n400D7thc0B9eys0C591h80B3ie2s0Eaxvpg0Bdpgw40Dafuk0B8a840Dafuk0B8a",
     "840Dafuk0B8a840Dast80B7x9g0Dast80B9q2s0D7k580B9q2s0Dafuk0B8a840Dafuk0B8a840Dast80B7x9g0D",
     "ast80B7x9g0Dast80B7x9g0Dast80B8a840Dafuk0B8a840Dafuk0B8a840Dast80B7x9g0Dast80B7x9g0Dast8",
     "0B8a840Dafuk0B8a840Dafuk0B8a840Dafuk0B8a840Dast80B7x9g0Dast80B7x9g0Dast80B8a840Dafuk0B8a",
     "840Dafuk0B8a840Dast80B7x9g0Dast80B"],
    ""⟩,
  ⟨"America/Menominee",
    "LMT:-21027 CST:-21600 CDT:-18000 CWT:-18000 CPT:-18000 EST:-18000",
    ["-17zjvrxBgz53bxCast80B7x9g0Cast80Bbmtus0D1tz8c0E2dsw0Basys0C7x3w0Ba7n9g0C9px80B1at9g0F23",
     "96k0C9d1c0B3lpg0Cf4d80B64g40Cclmk0B9d440C9px80B905g0C9px80B9d440C9cyk0B9d440C9cyk0B9d440",
     "C9cyk0B9d440C9cyk0B9d440C9px80B905g0C9px80B9d440C9cyk0B9d440C9cyk0B9d440C9cyk0B8a840Cafu",
     "k0B8a840Cast80B7x9g0Cast80B7x9g0Cast80B8a840Cafuk0B8a840Cafuk0B8a840Cast80B7x9g0Cast80B7",
     "x9g0Cast80B8a840Cafuk0B8a840Cafuk0B8a840Cafuk0B8a840Cast80B7x9g0Cast80B7x9g0Cast80B8a840",
     "Cafuk0B8a840Cafuk0B8a840Cast80B7x9g0Cast80B7x9g0Cast80B"],
    "2007 C 3.2.0/7200 B 11.1.0/7200"⟩,
  ⟨"America/Merida",
    "LMT:-21508 CST:-21600 EST:-18000 CDT:-18000",
    ["-p1tqqkBvau7ekChoyk0B6ys0c0Dafuk0B8a840Dafuk0B8a840Dafuk0B8a840Dast80B7x9g0Dast80B9q2s0D",
     "7k580B9q2s0Dafuk0B8a840Dafuk0B8a840Dast80B7x9g0Dast80B7x9g0Dast80B7x9g0Dast80B8a840Dafuk",
     "0B8a840Dafuk0B8a840Dast80B7x9g0Dast80B7x9g0Dast80B8a840Dafuk0B8a840Dafuk0B8a840Dafuk0B8a",
     "840Dast80B7x9g0Dast80B7x9g0Dast80B8a840Dafuk0B8a840Dafuk0B8a840Dast80B7x9g0Dast80B"],
    ""⟩,
  ⟨"America/Metlakatla",
    "LMT:54822 LMT:-31578 PST:-28800 PWT:-25200 PPT:-25200 PDT:-25200 AKST:-32400 AKDT:-28800",
    ["-1hc7qjzBh4ytl5Cln70quD1tz2s0E2dyg0Ccawis0F9cyk0C9d440F9cyk0C9d440F9px80C9d440F9cyk0C9d4",
     "40F9cyk0C3lpg0Ff4d80C64g40Fclmk0C9d440F9px80C905g0F9px80C9d440F9cyk0C9d440F9cyk0C9d440F9",
     "cyk0C9d440F9cyk0C9d440F9px80C905g0F9px80Cgpc840G6udg0Hc8nw0G6hes0Hc8nw0G6hes0Hc8nw0C3ylc",
     "0G2itg0Hc8nw0G"],
    "2020 H 3.2.0/7200 G 11.1.0/7200"⟩,
  ⟨"America/Mexico_City",
    "LMT:-23796 MST:-25200 CST:-21600 MDT:-21600 CDT:-18000 CWT:-18000",
    ["-p1tm70B2u71j0C1sgdc0B8n400D7thc0B9eys0C3knek0E776k0Crf440E5t6k0C1evk40F71mk0C30p1g0E8n1",
     "80Cnufxo0Eafuk0C8a840Eafuk0C8a840Eafuk0C8a840East80C7x9g0East80C9q2s0E7k580C9q2s0Eafuk0C",
     "8a840Eafuk0C8a840East80C7x9g0East80C7x9g0East80C7x9g0East80C8a840Eafuk0C8a840Eafuk0C8a84",
     "0East80C7x9g0East80C7x9g0East80C8a840Eafuk0C8a840Eafuk0C8a840Eafuk0C8a840East80C7x9g0Eas",
     "t80C7x9g0East80C8a840Eafuk0C8a840Eafuk0C8a840East80C7x9g0East80C"],
    ""⟩,
  ⟨"America/Miquelon",
    "LMT:-13480 AST:-14400 -03:-10800 -02:-7200",
    ["-uk1k9kBzy4wpkC3m59g0Dafuk0C8a840Dast80C7x9g0Dast80C7x9g0Dast80C8a840Dafuk0C8a840Dafuk0C",
     "8a840Dast80C7x9g0Dast80C7x9g0Dast80C8a840Dafuk0C8a840Dafuk0C8a840Dafuk0C8a840Dast80C7x9g",
     "0Dast80C7x9g0Dast80C8a840Dafuk0C8a840Dafuk0C8a840Dast80C7x9g0Dast80C7x9g0Dast80C"],
    "2007 D 3.2.0/7200 C 11.1.0/7200"⟩,
  ⟨"America/Moncton",
    "LMT:-15548 EST:-18000 AST:-14400 ADT:-10800 AWT:-10800 APT:-10800",
    ["-18wys04B9nu9w4C89fhg0Da2vw0C7mqqo0D4ofw0Ce1ms0D4ofw0Ce1ms0D4ofw0Ce1ms0D4ofw0Ce1ms0D4ofw",
     "0Ce1ms0D4ofw0Cdmtg0D64ak0Ccao40D6fek0Cbkqs0D7iak0C6y5k0E1tzdw0F2dnc0Casys0D7x3w0Casys0D7",
     "x3w0Casys0D7x3w0Casys0D7x3w0Cb5xg0D7k580Cb5xg0D7x3w0Casys0D7x3w0Casys0D7x3w0Casys0D7x3w0",
     "Casys0D7x3w0Cb5xg0D7x3w0Casys0D9cyk0C9d440D9cyk0C9d440D9cyk0C9d440D9px80C9d440D9cyk0C9d4",
     "40D9cyk0C9d440D9cyk0C9d440D9cyk0C9d440D9px80C905g0D9px80C9d440D9cyk0C9d440D9cyk0C9d440D9",
     "cyk0C9d440D9cyk0C9d440D9px80C9d440D9cyk0Cs36s0D9cyk0C9d440D9cyk0C9d440D9px80C905g0D9px80",
     "C9d440D9cyk0C9d440D9cyk0C9d440D9cyk0C9d440D9cyk0C9d440D9px80C905g0D9px80C9d440D9cyk0C9d4",
     "40D9cyk0C9d440D9cyk0C8a840Dafuk0C8a840Dast80C7x9g0Dast80C7x9g0Dast80C8a840Dafuk0C8a840Da",
     "fuk0C8a2loDast80C7x9g0Dast80C7x9g0Dast80C8a840Dafuk0C8a840Dafuk0C8a840Dafuk0C8a840Dast80",
     "C7x9g0Dast80C7x9g0Dast80C8a840Dafuk0C8a840Dafuk0C8a840Dast80C7x9g0Dast80C7x9g0Dast80C"],
    "2007 D 3.2.0/7200 C 11.1.0/7200"⟩,
  ⟨"America/Monterrey",
    "LMT:-24076 CST:-21600 CDT:-18000",
    ["-p1tor8Byksln8Cast80B3vppg0Cafuk0B8a840Cafuk0B8a840Cafuk0B8a840Cast80B7x9g0Cast80B9q2s0C",
     "7k580B9q2s0Cafuk0B8a840Cafuk0B8a840Cast80B7x9g0Cast80B7x9g0Cast80B7x9g0Cast80B8a840Cafuk",
     "0B8a840Cafuk0B8a840Cast80B7x9g0Cast80B7x9g0Cast80B8a840Cafuk0B8a840Cafuk0B8a840Cafuk0B8a",
     "840Cast80B7x9g0Cast80B7x9g0Cast80B8a840Cafuk0B8a840Cafuk0B8a840Cast80B7x9g0Cast80B"],
    ""⟩,
  ⟨"America/Montevideo",
    "LMT:-13491 MMT:-13491 -04:-14400 -03:-10800 -0330:-12600 -0230:-9000 -02:-7200 -0130:-5400",
    ["-w4mll9B67elc0C1s74p9D9et80E9exe0D9czy0E9exe0D9czy0E3ydyq0D7x5a0Easxe0D7x5a0Easxe0D7x5a0",
     "Easxe0D7x5a0Eb5w20D7k6m0Eb5w20D7k6m0E9q1e0D9czy0Easxe0D7x5a0E6do20Dppvy0F4mmm0D8g9qq0F90",
     "1a0D38pe0G2inw0D2nf9g0G8zzw0D1e3s40F9o3y0Dq8he0G2kik0Dyxhg0G4bh80Ds36s0H2vl60F905g0D5rg2",
     "0G51ek0Dweqs0G3yik0De1ms0G4ofw0Derk40G3yik0D2vs40Ggk7w0D41iys0G3wnw0Derk40G4bh80Dc8tg0G6",
     "4ak0Dc8tg0G6u7w0Dc8tg0G6h980Dbvus0G6u7w0D614qs0G9q2s0Da31g0G7x3w0Dag040G8a2k0Dasys0G7x3w",
     "0Dasys0G7x3w0Dasys0G8a2k0Dag040G8a2k0Dag040G8a2k0Dasys0G7x3w0Dasys0G7x3w0Dasys0G7x3w0D"],
    ""⟩,
  ⟨"America/New_York",
    "LMT:-17762 EST:-18000 EDT:-14400 EWT:-14400 EPT:-14400",
    ["-18y0b2mBhxlfumCast80B7x9g0Cast80B7x9g0Cb5rw0B905g0C7x3w0Bb5xg0C7k580Bb5xg0C7x3w0Basys0C",
     "7x3w0Basys0C7x3w0Basys0C7x3w0Basys0C7x3w0Bb5xg0C7x3w0Basys0C7x3w0Basys0C7x3w0Basys0C7x3w",
     "0Basys0C7x3w0Bb5xg0C7k580Bb5xg0C7x3w0Basys0C7x3w0Basys0C7x3w0Basys0C7x3w0Basys0C7x3w0Bb5",
     "xg0C7k580Bb5xg0C7x3w0Basys0C7x3w0B6w840D1tzb40E2dq40Basys0C7x3w0Basys0C7x3w0Basys0C7x3w0",
     "Basys0C7x3w0Bb5xg0C7k580Bb5xg0C7x3w0Basys0C7x3w0Basys0C7x3w0Basys0C7x3w0Basys0C9px80B9d4",
     "40C9cyk0B9d440C9cyk0B9d440C9cyk0B9d440C9cyk0B9d440C9px80B9d440C9cyk0B9d440C9cyk0B9d440C9",
     "cyk0B9d440C9cyk0B9d440C9px80B905g0C9px80B9d440C9cyk0B9d440C9cyk0B9d440C9cyk0B9d440C9cyk0",
     "B9d440C9px80B9d440C9cyk0B9d440C9cyk0B3lpg0Cf4d80B64g40Cclmk0B9d440C9px80B905g0C9px80B9d4",
     "40C9cyk0B9d440C9cyk0B9d440C9cyk0B9d440C9cyk0B9d440C9px80B905g0C9px80B9d440C9cyk0B9d440C9",
     "cyk0B9d440C9cyk0B8a840Cafuk0B8a840Cast80B7x9g0Cast80B7x9g0Cast80B8a840Cafuk0B8a840Cafuk0",
     "B8a840Cast80B7x9g0Cast80B7x9g0Cast80B8a840Cafuk0B8a840Cafuk0B8a840Cafuk0B8a840Cast80B7x9",
     "g0Cast80B7x9g0Cast80B8a840Cafuk0B8a840Cafuk0B8a840Cast80B7x9g0Cast80B7x9g0Cast80B"],
    "2007 C 3.2.0/7200 B 11.1.0/7200"⟩,
  ⟨"America/Nome",
    "LMT:46702 LMT:-39698 NST:-39600 NWT:-36000 NPT:-36000 BST:-39600 BDT:-36000 YST:-32400 AKST:-32400 AKDT:-28800",
    ["-1hc7qjzBh4yzupCln72taD1tyug0E2e6s0Cb7yik0F12y080G9cyk0F9d440G9cyk0F9d440G9px80F9d440G9c",
     "yk0F9d440G9cyk0F3lpg0Gf4d80F64g40Gclmk0F9d440G9px80F905g0G9px80F9d440G9cyk0F9d440G9cyk0F",
     "9d440G9cyk0F9d440G9cyk0F9d440G9px80F905g0G9px80H1l6c0I7rs80J9cyk0I9d440J9cyk0I9d440J9cyk",
     "0I8a840Jafuk0I8a840Jast80I7x9g0Jast80I7x9g0Jast80I8a840Jafuk0I8a840Jafuk0I8a840Jast80I7x",
     "9g0Jast80I7x9g0Jast80I8a840Jafuk0I8a840Jafuk0I8a840Jafuk0I8a840Jast80I7x9g0Jast80I7x9g0J",
     "ast80I8a840Jafuk0I8a840Jafuk0I8a840Jast80I7x9g0Jast80I7x9g0Jast80I"],
    "2007 J 3.2.0/7200 I 11.1.0/7200"⟩,
  ⟨"America/Noronha",
    "LMT:-7780 -02:-7200 -01:-3600",
    ["-t85lzwB99k8rwC9a9c0B9io40C99980B8p65g0C6zuo0Bbs2o0C67zw0Bcjxg0C69uk0Bcjxg0C4ml80B5mf440",
     "C49mk0Bhaas0C316k0Bcls40C4ml80Bcls40C66580Bcls40C67zw0B981s40C6u7w0Bbiw40C5rbw0Bd0lg0C5e",
     "d80Bcyqs0C5ed80Bdbpg0C64ak0B514g40C7k580Bbiw40Ccvw0Biq5g0C6h980B"],
    ""⟩,
  ⟨"America/North_Dakota/Beulah",
    "LMT:-24427 MST:-25200 MDT:-21600 MWT:-21600 MPT:-21600 CST:-21600 CDT:-18000",
    ["-18y00dhBhxlaphCast80B7x9g0Cast80Bbmtus0D1tz5k0E2dvo0Bb9gdg0C9cyk0B9d440C9cyk0B9d440C9cy",
     "k0B9d440C9cyk0B9d440C9px80B9d440C9cyk0B9d440C9cyk0B3lpg0Cf4d80B64g40Cclmk0B9d440C9px80B9",
     "05g0C9px80B9d440C9cyk0B9d440C9cyk0B9d440C9cyk0B9d440C9cyk0B9d440C9px80B905g0C9px80B9d440",
     "C9cyk0B9d440C9cyk0B9d440C9cyk0B8a840Cafuk0B8a840Cast80B7x9g0Cast80B7x9g0Cast80B8a840Cafu",
     "k0B8a840Cafuk0B8a840Cast80B7x9g0Cast80B7x9g0Cast80B8a840Cafuk0B8a840Cafuk0B8a840Cafuk0B8",
     "a840Cast80B7x9g0Cast80B7x9g0Cast80B8a840Cafuk0B8a840Cafuk0B8a840Cast80B7x9g0Cast80B7x9g0",
     "Cast80B6udg0Cc8nw0B6hes0Cc8nw0B6hes0Cc8nw0B6udg0Cc8nw0F"],
    "2011 G 3.2.0/7200 F 11.1.0/7200"⟩,
  ⟨"America/North_Dakota/Center",
    "LMT:-24312 MST:-25200 MDT:-21600 MWT:-21600 MPT:-21600 CST:-21600 CDT:-18000",
    ["-18y00goBhxlasoCast80B7x9g0Cast80Bbmtus0D1tz5k0E2dvo0Bb9gdg0C9cyk0B9d440C9cyk0B9d440C9cy",
     "k0B9d440C9cyk0B9d440C9px80B9d440C9cyk0B9d440C9cyk0B3lpg0Cf4d80B64g40Cclmk0B9d440C9px80B9",
     "05g0C9px80B9d440C9cyk0B9d440C9cyk0B9d440C9cyk0B9d440C9cyk0B9d440C9px80B905g0C9px80B9d440",
     "C9cyk0B9d440C9cyk0B9d440C9cyk0B8a840Cafuk0B8a840Cast80B7x9g0Cast80B7x9g0Cast80B8a840Cafu",
     "k0B8a840Cafuk0F8a5c0Gast80F7x9g0Gast80F7x9g0Gast80F8a840Gafuk0F8a840Gafuk0F8a840Gafuk0F8",
     "a840Gast80F7x9g0Gast80F7x9g0Gast80F8a840Gafuk0F8a840Gafuk0F8a840Gast80F7x9g0Gast80F7x9g0",
     "Gast80F"],
    "2007 G 3.2.0/7200 F 11.1.0/7200"⟩,
  ⟨"America/North_Dakota/New_Salem",
    "LMT:-24339 MST:-25200 MDT:-21600 MWT:-21600 MPT:-21600 CST:-21600 CDT:-18000",
    ["-18y00fxBhxlarxCast80B7x9g0Cast80Bbmtus0D1tz5k0E2dvo0Bb9gdg0C9cyk0B9d440C9cyk0B9d440C9cy",
     "k0B9d440C9cyk0B9d440C9px80B9d440C9cyk0B9d440C9cyk0B3lpg0Cf4d80B64g40Cclmk0B9d440C9px80B9",
     "05g0C9px80B9d440C9cyk0B9d440C9cyk0B9d440C9cyk0B9d440C9cyk0B9d440C9px80B905g0C9px80B9d440",
     "C9cyk0B9d440C9cyk0B9d440C9cyk0B8a840Cafuk0B8a840Cast80B7x9g0Cast80B7x9g0Cast80B8a840Cafu",
     "k0B8a840Cafuk0B8a840Cast80B7x9g0Cast80B7x9g0Cast80B8a840Cafuk0B8a840Cafuk0B8a840Cafuk0B8",
     "a840Cast80B7x9g0Cast80B7x9g0Cast80B8a840Cafuk0B8a840Cafuk0F8a5c0Gast80F7x9g0Gast80F7x9g0",
     "Gast80F"],
    "2007 G 3.2.0/7200 F 11.1.0/7200"⟩,
  ⟨"America/Nuuk",
    "LMT:-12416 -03:-10800 -02:-7200 -01:-3600",
    ["-rvumf4Bx8nqz4C8zrk0B9d1c0C9d1c0B9d1c0C9d1c0B9d1c0C9d1c0B9d1c0C9q000B9d1c0C9d1c0B9d1c0C9",
     "d1c0B9d1c0C9d1c0B9d1c0C9d1c0B9d1c0C9d1c0B9d1c0C9q000B9d1c0C9d1c0B9d1c0C9d1c0B9d1c0C9d1c0",
     "B9d1c0C9d1c0B9d1c0C9d1c0B9q000Casw00B7x6o0Casw00B7x6o0Casw00B7x6o0Cb5uo0B7k800Cb5uo0B7k8",
     "00Cb5uo0B7x6o0Casw00B7x6o0Casw00B7x6o0Cb5uo0B7k800Cb5uo0B7k800Cb5uo0B7k800Cb5uo0B7x6o0Ca",
     "sw00B7x6o0Casw00B7x6o0Cb5uo0B7k800Cb5uo0B7k800Cb5uo0B7x6o0Casw00B7x6o0Casw00B7x6o0Casw00",
     "B7x6o0Cb5uo0B7k800Cb5uo0B7k800Cb5uo0B7x6o0Casw00B7x6o0Casw00B7x6o0Cb5uo0B7k800Cb5uo0B7k8",
     "00C"],
    "2024 D 3.5.0/-3600 C 10.5.0/0"⟩,
  ⟨"America/Ojinaga",
    "LMT:-25060 MST:-25200 CST:-21600 MDT:-21600 CDT:-18000",
    ["-p1tl7wB2u70jwC1sgdc0B8n400D7thc0B9eys0Cxes2s0Eafuk0C8a840Eafuk0C8aaw0Dafuk0B8a840Dast80",
     "B7x9g0Dast80B9q2s0D7k580B9q2s0Dafuk0B8a840Dafuk0B8a840Dast80B7x9g0Dast80B7x9g0Dast80B7x9",
     "g0Dast80B8a840Dafuk0B8a840Dafuk0B77c40Dc8nw0B6hes0Dc8nw0B6hes0Dc8nw0B6hes0Dc8nw0B6hes0Dc",
     "8nw0B6hes0Dc8nw0B6udg0Dc8nw0B6hes0Dc8nw0B6hes0Dc8nw0B6hes0Dc8nw0B6hes0Dc8nw0B6udg0Dc8nw0",
     "B6hes0Dbvp80C"],
    "2023 E 3.2.0/7200 C 11.1.0/7200"⟩,
  ⟨"America/Panama",
    "LMT:-19088 CMT:-19176 EST:-18000",
    ["-15r0ulsB9jvmqgC"],
    ""⟩,
  ⟨"America/Paramaribo",
    "LMT:-13240 PMT:-13252 PMT:-13236 -0330:-12600 -03:-10800",
    ["-usj4g8Bcixc0cC5lydbkDkcrm6cE"],
    ""⟩,
  ⟨"America/Phoenix",
    "LMT:-26898 MST:-25200 MDT:-21600 MWT:-21600",
    ["-18xzyguBhxl8suCast80B7x9g0Cast80Bbmtus0DzjedoB4olg0D9et80Bbs6lmcC9cyk0B"],
    ""⟩,
  ⟨"America/Port-au-Prince",
    "LMT:-17360 PPMT:-17340 EST:-18000 EDT:-14400",
    ["-15r0vxsBe4gmngCylcf6cD8zzw0C9d440D9cyk0C9d440D9cyk0C9d440D9cyk0C9d440D9cyk0C8aaw0Dasw00",
     "C7x6o0Dasw00C7x6o0Dasw00C8a5c0Dafxc0C8a5c0Dafxc0C8a5c0Dasw00C7x6o0Dasw00C7x6o0Dasw00C8a5",
     "c0Dafxc0C8a5c0Dafxc0C3vpjw0Dast80C7x9g0Dast80C2stv00Dc8nw0C6hes0Dc8nw0C6hes0Dc8nw0C6hes0",
     "Dc8nw0C"],
    "2017 D 3.2.0/7200 C 11.1.0/7200"⟩,
  ⟨"America/Porto_Velho",
    "LMT:-15336 -04:-14400 -03:-10800",
    ["-t85g60B99k8i0C9a9c0B9io40C99980B8p65g0C6zuo0Bbs2o0C67zw0Bcjxg0C69uk0Bcjxg0C4ml80B5mf440",
     "C49mk0Bhaas0C316k0Bcls40C4ml80Bcls40C66580Bcls40C67zw0B981s40C6u7w0Bbiw40C5rbw0Bd0lg0C5e",
     "d80B"],
    ""⟩,
  ⟨"America/Puerto_Rico",
    "LMT:-15865 AST:-14400 AWT:-10800 APT:-10800",
    ["-10xhp3bBmhp1jbC1ppu40D2dnc0B"],
    ""⟩,
  ⟨"America/Punta_Arenas",
    "LMT:-17020 SMT:-16965 -05:-18000 -04:-14400 -03:-10800",
    ["-15r0w78Bag6lahC3dlssrB157b79Df4e0rB49hzb9Daye0rC7ves0Dawik0C7ves0Dawik0C7ves0Dawik0C7ve",
     "s0Dayd80C7ves0D534ik0C351g0D2fnh80C2mg00Db73400E7k580Dc8tg0E6h980Da31g0E7x3w0Dasys0E7x3w",
     "0Db5xg0E7k580Dag040E8a2k0Db5xg0E7k580Db5xg0E7x3w0Dasys0E7x3w0Dasys0E7x3w0Db5xg0E7k580Db5",
     "xg0E7k580Db5xg0E7x3w0Dasys0E7x3w0Dasys0E7x3w0Dasys0E7x3w0Db5xg0E7k580Db5xg0E7k580Db5xg0E",
     "9cyk0D9d440E7x3w0Dasys0E7x3w0Db5xg0E7k580D9q2s0E8zzw0Db5xg0E7x3w0Dasys0E7x3w0Dasys0E7x3w",
     "0Dasys0E7x3w0Db5xg0E7k580Db5xg0E8n180Da31g0E7x3w0Da31g0E9px80D9q2s0E7x3w0Db5xg0E7k580Db5",
     "xg0E7k580Db5xg0E7k580Db5xg0E7x3w0Dasys0E7x3w0Dasys0E7x3w0Db5xg0E7k580Db5xg0E8n180Da31g0E",
     "7x3w0Dasys0E8zzw0D9q2s0East80D5eis0Ecyl80D6hes0Ec8nw0D6udg0Ebvp80D6udg0Evonw0D4olg0E"],
    ""⟩,
  ⟨"America/Rankin_Inlet",
    "-00:0 CST:-21600 CDT:-18000 EST:-18000",
    ["-6s8lc0B7zza80C9cyk0B9d440C9cyk0B9d440C9cyk0B9d440C9cyk0B9d440C9px80B905g0C9px80B9d440C9",
     "cyk0B9d440C9cyk0B9d440C9cyk0B9d440C9cyk0B9d440C9px80B905g0C9px80B9d440C9cyk0B9d440C9cyk0",
     "B9d440C9cyk0B8a840Cafuk0B8a840Cast80B7x9g0Cast80B7x9g0Cast80B8a840Cafuk0B8a840Cafuk0B8a8",
     "40Cast80B7x9g0Cast80B7x9g0Cast80B8a840Cafuk0B8a840Cafuk0B8a840Cafuk0B8a840Cast80B7x9g0Ca",
     "st80D7x9g0Cast80B8a840Cafuk0B8a840Cafuk0B8a840Cast80B7x9g0Cast80B7x9g0Cast80B"],
    "2007 C 3.2.0/7200 B 11.1.0/7200"⟩,
  ⟨"America/Recife",
    "LMT:-8376 -03:-10800 -02:-7200",
    ["-t85ljcB99kb3cC9a9c0B9io40C99980B8p65g0C6zuo0Bbs2o0C67zw0Bcjxg0C69uk0Bcjxg0C4ml80B5mf440",
     "C49mk0Bhaas0C316k0Bcls40C4ml80Bcls40C66580Bcls40C67zw0B981s40C6u7w0Bbiw40C5rbw0Bd0lg0C5e",
     "d80Bcyqs0C5ed80Bdbpg0C64ak0B514g40C7k580Bbiw40Ccvw0Biq5g0C6h980B"],
    ""⟩,
  ⟨"America/Regina",
    "LMT:-25116 MST:-25200 MDT:-21600 MWT:-21600 MPT:-21600 CST:-21600",
    ["-xkq9ycB6l1hmcCa2vw0B60enw0C7x3w0Basys0C7x3w0Basys0C7x3w0Bb5xg0C7k580Bb5xg0C7x3w0B1b6840",
     "C9cyk0B9d440C8zzw0B9q2s0C9cyk0B9q2s0C9cyk0B9d440C9cyk0B66gc0D1tz5k0E2dvo0Ba31g0C9cyk0Ba3",
     "1g0C7x3w0Basys0C7x3w0Basys0C7x3w0Bb5xg0C7k580Bb5xg0C7x3w0Basys0C7x3w0Basys0C7x3w0Basys0C",
     "7x3w0Basys0C7x3w0Bb5xg0C7x3w0Basys0C7x3w0Btj1g0C9cyk0B9d440F"],
    ""⟩,
  ⟨"America/Resolute",
    "-00:0 CST:-21600 CDT:-18000 EST:-18000",
    ["-bnp9c0Bcvfy80C9cyk0B9d440C9cyk0B9d440C9cyk0B9d440C9cyk0B9d440C9px80B905g0C9px80B9d440C9",
     "cyk0B9d440C9cyk0B9d440C9cyk0B9d440C9cyk0B9d440C9px80B905g0C9px80B9d440C9cyk0B9d440C9cyk0",
     "B9d440C9cyk0B8a840Cafuk0B8a840Cast80B7x9g0Cast80B7x9g0Cast80B8a840Cafuk0B8a840Cafuk0B8a8",
     "40Cast80B7x9g0Cast80B7x9g0Cast80B8a840Cafuk0B8a840Cafuk0B8a840Cafuk0B8a840Cast80B7x9g0Ca",
     "st80D7x9g0Cast80B8a840Cafuk0B8a840Cafuk0B8a840Cast80B7x9g0Cast80B7x9g0Cast80D"],
    "2007 C 3.2.0/7200 B 11.1.0/7200"⟩,
  ⟨"America/Rio_Branco",
    "LMT:-16272 -05:-18000 -04:-14400",
    ["-t85fg0B99kak0C9a9c0B9io40C99980B8p65g0C6zuo0Bbs2o0C67zw0Bcjxg0C69uk0Bcjxg0C4ml80B5mf440",
     "C49mk0Bhaas0C316k0Bcls40C4ml80Bcls40C66580Bcls40C67zw0B981s40C6u7w0Bbiw40C5rbw0Bd0lg0C5e",
     "d80Bamves0C2t2t80B"],
    ""⟩,
  ⟨"America/Santarem",
    "LMT:-13128 -04:-14400 -03:-10800",
    ["-t85hvcB99ka7cC9a9c0B9io40C99980B8p65g0C6zuo0Bbs2o0C67zw0Bcjxg0C69uk0Bcjxg0C4ml80B5mf440",
     "C49mk0Bhaas0C316k0Bcls40C4ml80Bcls40C66580Bcls40C67zw0B981s40C6u7w0Bbiw40C5rbw0Bd0lg0C5e",
     "d80Bamves0C"],
    ""⟩,
  ⟨"America/Santiago",
    "LMT:-16965 SMT:-16965 -05:-18000 -04:-14400 -03:-10800",
    ["-15r0w8rBag6lc0C3dlssrB157b79Df4e0rB49hzb9Daye0rC7ves0Dawik0C7ves0Dawik0C7ves0Dawik0C7ve",
     "s0Dayd80C7ves0D534ik0C351g0D229zw0E2b980Db2840C2mg00Db73400E7k580Dc8tg0E6h980Da31g0E7x3w",
     "0Dasys0E7x3w0Db5xg0E7k580Dag040E8a2k0Db5xg0E7k580Db5xg0E7x3w0Dasys0E7x3w0Dasys0E7x3w0Db5",
     "xg0E7k580Db5xg0E7k580Db5xg0E7x3w0Dasys0E7x3w0Dasys0E7x3w0Dasys0E7x3w0Db5xg0E7k580Db5xg0E",
     "7k580Db5xg0E9cyk0D9d440E7x3w0Dasys0E7x3w0Db5xg0E7k580D9q2s0E8zzw0Db5xg0E7x3w0Dasys0E7x3w",
     "0Dasys0E7x3w0Dasys0E7x3w0Db5xg0E7k580Db5xg0E8n180Da31g0E7x3w0Da31g0E9px80D9q2s0E7x3w0Db5",
     "xg0E7k580Db5xg0E7k580Db5xg0E7k580Db5xg0E7x3w0Dasys0E7x3w0Dasys0E7x3w0Db5xg0E7k580Db5xg0E",
     "8n180Da31g0E7x3w0Dasys0E8zzw0D9q2s0East80D5eis0Ecyl80D6hes0Ec8nw0D6udg0Ebvp80D6udg0Evonw",
     "0D4olg0Ee1h80D4olg0Ee1h80D4olg0Ec8nw0D7x9g0East80D7x9g0East80D7x9g0East80D8a840E"],
    "2023 E 9.1.6/86400 D 4.1.6/86400"⟩,
  ⟨"America/Santo_Domingo",
    "LMT:-16776 SDMT:-16800 EST:-18000 EDT:-14400 -0430:-16200 AST:-14400",
    ["-15r0we0BmkixcoChiw29cD67zw0C1dy840E62ha0Ccnle0E4h2m0Celyq0E47ta0Cei9e0E4bim0Ceek20E4dda",
     "0Cecpe0Fdkmtg0C1stc0F"],
    ""⟩,
  ⟨"America/Sao_Paulo",
    "LMT:-11188 -03:-10800 -02:-7200",
    ["-t85jd8B99k8x8C9a9c0B9io40C99980B8p65g0C6zuo0Bbs2o0C67zw0Bcjxg0C69uk0Bcjxg0C4ml80B5k02s0",
     "C6onw0Bhaas0C316k0Bcls40C4ml80Bcls40C66580Bcls40C67zw0B981s40C6u7w0Bbiw40C5rbw0Bd0lg0C5e",
     "d80Bcyqs0C5ed80Bdbpg0C64ak0Bcyqs0C64ak0Bcls40C5rbw0Bdbpg0C51ek0Bdbpg0C6h980Bc8tg0C6h980B",
     "c8tg0C64ak0Bc8tg0C6u7w0Bbxpg0C7iak0Bbiw40C6u7w0Bbiw40C7k580Bbiw40C6u7w0Bc8tg0C6h980Bdbpg",
     "0C5ed80Bcls40C64ak0Bdfes0C5nmk0Bc8tg0C6h980Bdbpg0C5rbw0Bbvus0C6h980Bcls40C64ak0Bcls40C6h",
     "980Bc8tg0C6h980Bc8tg0C6u7w0Bc8tg0C64ak0Bcls40C64ak0Bcls40C6h980Bc8tg0C6h980Bc8tg0C6h980B",
     "c8tg0C6h980Bdbpg0C5ed80B"],
    ""⟩,
  ⟨"America/Scoresbysund",
    "LMT:-5272 -02:-7200 -01:-3600 +00:0",
    ["-rvurxkBx8ntpkC902o0B9cvs0D9cyk0C9d1c0D9d1c0C9d1c0D9d1c0C9d1c0D9q000C9d1c0D9d1c0C9d1c0D9",
     "d1c0C9d1c0D9d1c0C9d1c0D9d1c0C9d1c0D9d1c0C9d1c0D9q000C9d1c0D9d1c0C9d1c0D9d1c0C9d1c0D9d1c0",
     "C9d1c0D9d1c0C9d1c0D9d1c0C9q000Dasw00C7x6o0Dasw00C7x6o0Dasw00C7x6o0Db5uo0C7k800Db5uo0C7k8",
     "00Db5uo0C7x6o0Dasw00C7x6o0Dasw00C7x6o0Db5uo0C7k800Db5uo0C7k800Db5uo0C7k800Db5uo0C7x6o0Da",
     "sw00C7x6o0Dasw00C7x6o0Db5uo0C7k800Db5uo0C7k800Db5uo0C7x6o0Dasw00C7x6o0Dasw00C7x6o0Dasw00",
     "C7x6o0Db5uo0C7k800Db5uo0C7k800Db5uo0C7x6o0Dasw00C7x6o0Dasw00C7x6o0Db5uo0C7k800Db5uo0C7k8",
     "00Db5uo0Ciq2o0B"],
    "2025 C 3.5.0/-3600 B 10.5.0/0"⟩,
  ⟨"America/Sitka",
    "LMT:53927 LMT:-32473 PST:-28800 PWT:-25200 PPT:-25200 PDT:-25200 YST:-32400 AKST:-32400 AKDT:-28800",
    ["-1hc7qjzBh4yua0Cln701zD1tz2s0E2dyg0Ccawis0F9cyk0C9d440F9cyk0C9d440F9px80C9d440F9cyk0C9d4",
     "40F9cyk0C3lpg0Ff4d80C64g40Fclmk0C9d440F9px80C905g0F9px80C9d440F9cyk0C9d440F9cyk0C9d440F9",
     "cyk0C9d440F9cyk0C9d440F9px80C905g0F9px80G1leo0H7rs80I9cyk0H9d440I9cyk0H9d440I9cyk0H8a840",
     "Iafuk0H8a840Iast80H7x9g0Iast80H7x9g0Iast80H8a840Iafuk0H8a840Iafuk0H8a840Iast80H7x9g0Iast",
     "80H7x9g0Iast80H8a840Iafuk0H8a840Iafuk0H8a840Iafuk0H8a840Iast80H7x9g0Iast80H7x9g0Iast80H8",
     "a840Iafuk0H8a840Iafuk0H8a840Iast80H7x9g0Iast80H7x9g0Iast80H"],
    "2007 I 3.2.0/7200 H 11.1.0/7200"⟩,
  ⟨"America/St_Johns",
    "LMT:-12652 NST:-12652 NDT:-9052 NST:-12600 NDT:-9000 NWT:-9000 NPT:-9000 NDDT:-5400",
    ["-18vs8wkBhd05k0C8bx80Bar440Ca2vw0B9tjs0C53980Bdkys0C9cyk0B9d440C9cyk0B9q2s0C8zzw0B9q2s0C",
     "8zzw0B9q2s0C8zzw0B9q2s0C8zzw0B9q2s0C9cyk0B9d440C9cyk0B9q2s0C8zzw0B9q2s0C8zzw0B9q2s0C8zzw",
     "0B9q2s0C8zzw0B9q2s0C9cyk0B9q2s0C8zzw0B9q2s0C8zzw0B7tmw0D1wfukE8zzw0Da3480E7k580Db5xg0E7k",
     "580Db5xg0E7k580Dbiw40E776k0Dbiw40E7k580Db5xg0E7k580Db5xg0F1pb260G2dly0Dbiw40E7k580Db5xg0",
     "E7k580Db5xg0E7k580Db5xg0E7k580Dbiw40E7k580Dag040E7x3w0Dasys0E7x3w0Dasys0E7x3w0Dasys0E7x3",
     "w0Dasys0E7x3w0Db5xg0E7x3w0Dasys0E7x3w0Dasys0E7x3w0Dasys0E7x3w0Dasys0E9px80D9d440E9cyk0D9",
     "d440E9cyk0D9d440E9cyk0D9d440E9cyk0D9d440E9px80D905g0E9px80D9d440E9cyk0D9d440E9cyk0D9d440",
     "E9cyk0D9d440E9cyk0D9d440E9px80D9d440E9cyk0D9d440E9cyk0D9d440E9cyk0D9d440E9cyk0D9d440E9px",
     "80D905g0E9px80D9d440E9cyk0D9d440E9cyk0D9d440E9cyk0D9d440E9cyk0D9d440E9px80D905g0E9px80D9",
     "d440E9cyk0D9d440E9cyk0D9d440E9cyk0D8a2loEafuk0D8a840Hasqg0D7xc80East80D7x9g0East80D8a840",
     "Eafuk0D8a840Eafuk0D8a840East80D7x9g0East80D7x9g0East80D8a840Eafuk0D8a840Eafuk0D8a840Eafu",
     "k0D8a840East80D7x9g0East80D7x9g0East80D8a840Eafuk0D8a840Eafuk0D8a840East80D7x9g0East80D7",
     "x9g0East80D6udg0Ec8nw0D6hes0Ec8nw0D6hes0Ec8nw0D6udg0Ec8nw0D6hes0Ec8tecD"],
    "2012 E 3.2.0/7200 D 11.1.0/7200"⟩,
  ⟨"America/Swift_Current",
    "LMT:-25880 MST:-25200 MDT:-21600 MWT:-21600 MPT:-21600 CST:-21600",
    ["-xkq9d4B6l1h14Ca2vw0Bc5jxg0D1tz5k0E2dvo0Basys0C8n180Ba31g0C7x3w0Basys0C7x3w0Basys0C7x3w0",
     "B3yles0C9cyk0Bs36s0C9cyk0B9d440C7x3w0Bb5xg0C7k580B5j4lg0F"],
    ""⟩,
  ⟨"America/Tegucigalpa",
    "LMT:-20932 CST:-21600 CDT:-18000",
    ["-pfzh6kByho0ikC7k580Bb5xg0C7k580B96x1g0C4qak0B"],
    ""⟩,
  ⟨"America/Thule",
    "LMT:-16508 AST:-14400 ADT:-10800",
    ["-rvuj9gB12yzilgC9cyk0B9d440C9cyk0B9q2s0Cast80B7x9g0Cast80B7x9g0Cast80B8a840Cafuk0B8a840C",
     "afuk0B8a840Cafuk0B8a840Cast80B7x9g0Cast80B7x9g0Cast80B8a840Cafuk0B8a840Cafuk0B8a840Cast8",
     "0B7x9g0Cast80B7x9g0Cast80B"],
    "2007 C 3.2.0/7200 B 11.1.0/7200"⟩,
  ⟨"America/Tijuana",
    "LMT:-28084 MST:-25200 PST:-28800 PDT:-25200 PWT:-25200 PPT:-25200",
    ["-p1tivwB11j8zwC1sns00B1sgdc0C71s40D9cyk0C5iidg0E1q6qg0F4kw40C190g40Deluk0C2r4o80D7x6o0Ca",
     "sw00D7x6o0Cb5uo0D7x6o0Casw00D7x6o0Casw00D7x6o0Casw00D7x6o0Casw00D7x6o0C84qys0D9px80C905g",
     "0D9px80C9d440D9cyk0C9d440D9cyk0C9d440D9cyk0C9d440D9cyk0C9d440D9px80C905g0D9px80C9d440D9c",
     "yk0C9d440D9cyk0C9d440D9cyk0C8a840Dafuk0C8a840Dast80C7x9g0Dast80C7x9g0Dast80C8a840Dafuk0C",
     "8a840Dafuk0C8a840Dast80C7x9g0Dast80C7x9g0Dast80C8a840Dafuk0C8a840Dafuk0C8a840Dafuk0C8a84",
     "0Dast80C7x9g0Dast80C7x9g0Dast80C8a840Dafuk0C8a840Dafuk0C8a840Dast80C7x9g0Dast80C7x9g0Das",
     "t80C7x9g0Dast80C8a840Dafuk0C8a840Dafuk0C"],
    "2010 D 3.2.0/7200 C 11.1.0/7200"⟩,
  ⟨"America/Toronto",
    "LMT:-19052 EST:-18000 EDT:-14400 EWT:-14400 EPT:-14400",
    ["-1353dasBc5efesCa2vw0B7yx60Caqzy0B9q8c0C7jzo0Bbw0c0C6bp80Bcedg0C6h980Bc8tg0C6h980Bbvus0C",
     "776k0Bbiw40C776k0Bbiw40C776k0Bbiw40C7k580Bb5xg0C7x3w0Basys0C7x3w0Basys0C7x3w0Basys0C7x3w",
     "0Bb5xg0C7k580Bb5xg0C7x3w0Basys0C7x3w0Basys0C7x3w0Basys0C7x3w0Basys0C7x3w0Basys0C7x3w0Bb5",
     "xg0C7k580Bb5xg0Cxjbw0D1tzdw0E2dq40Basys0C7x3w0Basys0C7x3w0Basys0C7x3w0Basys0Cb5rw0B7x9g0",
     "Cast80B7x9g0C7x3w0Basys0C7x3w0Basys0C7x3w0Basys0C7x3w0Basys0C7x3w0Bb5xg0C7x3w0Basys0C9cy",
     "k0B9d440C9cyk0B9d440C9cyk0B9d440C9px80B9d440C9cyk0B9d440C9cyk0B9d440C9cyk0B9d440C9cyk0B9",
     "d440C9px80B905g0C9px80B9d440C9cyk0B9d440C9cyk0B9d440C9cyk0B9d440C9cyk0B9d440C9px80B9d440",
     "C9cyk0B9d440C9cyk0B9d440C9cyk0B9d440C9cyk0B9d440C9px80B905g0C9px80B9d440C9cyk0B9d440C9cy",
     "k0B9d440C9cyk0B9d440C9cyk0B9d440C9px80B905g0C9px80B9d440C9cyk0B9d440C9cyk0B9d440C9cyk0B8",
     "a840Cafuk0B8a840Cast80B7x9g0Cast80B7x9g0Cast80B8a840Cafuk0B8a840Cafuk0B8a840Cast80B7x9g0",
     "Cast80B7x9g0Cast80B8a840Cafuk0B8a840Cafuk0B8a840Cafuk0B8a840Cast80B7x9g0Cast80B7x9g0Cast",
     "80B8a840Cafuk0B8a840Cafuk0B8a840Cast80B7x9g0Cast80B7x9g0Cast80B"],
    "2007 C 3.2.0/7200 B 11.1.0/7200"⟩,
  ⟨"America/Vancouver",
    "LMT:-29548 PST:-28800 PDT:-25200 PWT:-25200 PPT:-25200",
    ["-18vrvv8Bhw36b8Ca2vw0Bc5jxg0D1tz2s0E2dyg0Basys0C7x3w0Basys0C7x3w0Basys0C7x3w0Basys0C7x3w",
     "0Bb5xg0C7k580Bb5xg0C7x3w0Basys0C7x3w0Basys0C7x3w0Basys0C7x3w0Basys0C7x3w0Bb5xg0C7x3w0Bas",
     "ys0C7x3w0Basys0C7x3w0Basys0C7x3w0Basys0C7x3w0Bb5xg0C7k580Bb5xg0C9cyk0B9d440C9cyk0B9d440C",
     "9cyk0B9d440C9px80B905g0C9px80B9d440C9cyk0B9d440C9cyk0B9d440C9cyk0B9d440C9cyk0B9d440C9px8",
     "0B9d440C9cyk0B9d440C9cyk0B9d440C9cyk0B9d440C9cyk0B9d440C9px80B905g0C9px80B9d440C9cyk0B9d",
     "440C9cyk0B9d440C9cyk0B9d440C9cyk0B9d440C9px80B905g0C9px80B9d440C9cyk0B9d440C9cyk0B9d440C",
     "9cyk0B8a840Cafuk0B8a840Cast80B7x9g0Cast80B7x9g0Cast80B8a840Cafuk0B8a840Cafuk0B8a840Cast8",
     "0B7x9g0Cast80B7x9g0Cast80B8a840Cafuk0B8a840Cafuk0B8a840Cafuk0B8a840Cast80B7x9g0Cast80B7x",
     "9g0Cast80B8a840Cafuk0B8a840Cafuk0B8a840Cast80B7x9g0Cast80B7x9g0Cast80B"],
    "2007 C 3.2.0/7200 B 11.1.0/7200"⟩,
  ⟨"America/Whitehorse",
    "LMT:-32412 YST:-32400 YDT:-28800 YWT:-28800 YPT:-28800 YDDT:-25200 PST:-28800 PDT:-25200 MST:-25200",
    ["-1079tnoB97l6voCa2vw0Basys0C882c0Bbmiwc0D1tz000E2e180Ba7n3w0F9q000B64dc0G7e3pg0H9cyk0G9d",
     "440H9cyk0G9d440H9px80G905g0H9px80G9d440H9cyk0G9d440H9cyk0G9d440H9cyk0G8a840Hafuk0G8a840H",
     "ast80G7x9g0Hast80G7x9g0Hast80G8a840Hafuk0G8a840Hafuk0G8a840Hast80G7x9g0Hast80G7x9g0Hast8",
     "0G8a840Hafuk0G8a840Hafuk0G8a840Hafuk0G8a840Hast80G7x9g0Hast80G7x9g0Hast80G8a840Hafuk0G8a",
     "840Hafuk0G8a840Hast80G7x9g0Hast80G7x9g0Hast80G6udg0Hc8nw0G6hes0Hc8nw0G6hes0Hc8nw0G6udg0H",
     "c8nw0G6hes0Hc8nw0G6hes0Hc8nw0G6hes0Hc8nw0G6hes0Hc8nw0G6hes0Hc8nw0G6udg0Hc8nw0G6hes0Hc8nw",
     "0G6hes0Hc8nw0G6hes0Hc8nw0G6hes0Hc8ic0I"],
    ""⟩,
  ⟨"America/Winnipeg",
    "LMT:-23316 CST:-21600 CDT:-18000 CWT:-18000 CPT:-18000",
    ["-171bfccBf0j80cC7k580Btj700Ca2vw0B9ok840C6u7w0B2a5hg0D1tz8c0E2dsw0Bbiw40C7x3w0Ba31g0C7x3",
     "w0Basys0C7x3w0Basys0C7x3w0Bb7s40C7tek0Bautg0C7x3w0Basys0C7x3w0Basys0C7x3w0Basys0C7x3w0Ba",
     "sys0C7x3w0Bb5xg0C7x3w0Basys0C7x3w0Basys0C7x3w0Basys0C9cyk0B9d440C7x3w0B1cm2s0C7k580B1cm2",
     "s0C9q000B9d1c0C9d1c0B9d1c0C9d1c0B9d1c0C9d1c0B9d1c0C9d1c0B9d1c0C9q000B9d1c0C9d1c0B9d1c0C9",
     "d1c0B9d1c0C9d1c0B9d1c0C9d1c0B9d1c0C9q000B902o0C9q000B9d1c0C9d1c0B9d1c0C9d1c0B9d1c0C9d1c0",
     "B9d1c0C9d1c0B9d1c0C9q000B902o0C9q000B9d1c0C9d1c0B9d1c0C9d1c0B9d1c0C9d1c0B8a5c0Cafxc0B8a5",
     "c0Casw00B7x6o0Casw00B7x6o0Casw00B8a5c0Cafxc0B8a5c0Cafxc0B8a5c0Casw00B7x6o0Casw00B7x6o0Ca",
     "sw00B8a5c0Cafxc0B8a5c0Cafxc0B8a5c0Cafxc0B8a5c0Casw00B7x6o0Casw00B7x6o0Casw00B8a5c0Cafxc0",
     "B8a5c0Cafxc0B8a5c0Casw00B7x6o0Casw00B7x6o0Cast80B"],
    "2007 C 3.2.0/7200 B 11.1.0/7200"⟩,
  ⟨"America/Yakutat",
    "LMT:52865 LMT:-33535 YST:-32400 YWT:-28800 YPT:-28800 YDT:-28800 AKST:-32400 AKDT:-28800",
    ["-1hc7qjzBh4yv3iCln720hD1tz000E2e180Ccawis0F9cyk0C9d440F9cyk0C9d440F9px80C9d440F9cyk0C9d4",
     "40F9cyk0C3lpg0Ff4d80C64g40Fclmk0C9d440F9px80C905g0F9px80C9d440F9cyk0C9d440F9cyk0C9d440F9",
     "cyk0C9d440F9cyk0C9d440F9px80C905g0F9px80C1lbw0G7rs80H9cyk0G9d440H9cyk0G9d440H9cyk0G8a840",
     "Hafuk0G8a840Hast80G7x9g0Hast80G7x9g0Hast80G8a840Hafuk0G8a840Hafuk0G8a840Hast80G7x9g0Hast",
     "80G7x9g0Hast80G8a840Hafuk0G8a840Hafuk0G8a840Hafuk0G8a840Hast80G7x9g0Hast80G7x9g0Hast80G8",
     "a840Hafuk0G8a840Hafuk0G8a840Hast80G7x9g0Hast80G7x9g0Hast80G"],
    "2007 H 3.2.0/7200 G 11.1.0/7200"⟩]

end Rota.Zone.Tables
